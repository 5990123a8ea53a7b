import Chalybs.Daemon.State
import Chalybs.Foundation.Framing
import Mathlib.Data.Nat.Find

/-!
# Messages on the socket

The daemon and the TUI exchange messages of `daemon/src/ipc.rs`, each as one line of JSON.  Both
ends read what the socket has, at most 4096 bytes at a time, and decode every read as UTF-8 by
itself before they look for lines.

`serde_json` is a parameter.  What the ends do with a line and with a read that gives no data
differs, and is the data of an `Endpoint`.

* `fromUtf8`, `fromUtf8_eq_ok` — `std::str::from_utf8`; `cutLines_toUtf8` — lines in bytes.
* `Rx.receive` — the buffer and the loop over its lines; `receive_append` says that where the text
  is cut makes no difference to it.
* `Endpoint.drain`, `Endpoint.serve` — one call, and calls one after the other.
* `drainClientCommands` — the endpoint of the daemon.
* `Endpoint.serve_of_drops` — what is handled before a client is dropped.
* `Endpoint.delivers_iff` — when an endpoint gets the messages that were sent.
-/

namespace Chalybs

open Foundation

/-! ## Text as bytes -/

/-- `str::as_bytes`. -/
def toUtf8 (text : List Char) : List UInt8 := text.flatMap String.utf8EncodeChar

/-- `Utf8Error`. -/
structure Utf8Error where
  validUpTo : ℕ
  errorLen : Option ℕ
  deriving DecidableEq, Repr

def Utf8Error.display (e : Utf8Error) : String :=
  match e.errorLen with
  | some len => s!"invalid utf-8 sequence of {len} bytes from index {e.validUpTo}"
  | none => s!"incomplete utf-8 byte sequence from index {e.validUpTo}"

/-- What may follow the first byte of a character of more than one byte: the length of the
character, and the range of its second byte. -/
def secondByte (first : UInt8) : Option (ℕ × UInt8 × UInt8) :=
  if 0xc2 ≤ first ∧ first ≤ 0xdf then some (2, 0x80, 0xbf)
  else if first = 0xe0 then some (3, 0xa0, 0xbf)
  else if first = 0xed then some (3, 0x80, 0x9f)
  else if 0xe1 ≤ first ∧ first ≤ 0xef then some (3, 0x80, 0xbf)
  else if first = 0xf0 then some (4, 0x90, 0xbf)
  else if 0xf1 ≤ first ∧ first ≤ 0xf3 then some (4, 0x80, 0xbf)
  else if first = 0xf4 then some (4, 0x80, 0x8f)
  else none

/-- How many of the bytes, which do not start with a character, are the beginning of one; `none`
if they end before it does. -/
def invalidLen : List UInt8 → Option ℕ
  | [] => none
  | first :: rest =>
      match secondByte first with
      | none => some 1
      | some (width, low, high) =>
          match rest with
          | [] => none
          | second :: rest =>
              if ¬ (low ≤ second ∧ second ≤ high) then some 1
              else
                let continuing := rest.takeWhile fun b => decide (0x80 ≤ b ∧ b ≤ 0xbf)
                if continuing.length = rest.length ∧ rest.length + 2 < width then none
                else some (2 + continuing.length)

/-- Where the longest valid beginning ends, and what is wrong there. -/
def utf8Error (bytes : List UInt8) : Utf8Error :=
  let validUpTo :=
    Nat.findGreatest (fun n => (bytes.take n).toByteArray.validateUTF8 = true) bytes.length
  { validUpTo, errorLen := invalidLen (bytes.drop validUpTo) }

/-- `std::str::from_utf8`. -/
def fromUtf8 (bytes : List UInt8) : Except Utf8Error (List Char) :=
  match bytes.toByteArray.utf8Decode? with
  | some text => .ok text.toList
  | none => .error (utf8Error bytes)

example : fromUtf8 [0x61, 0xc3] = .error ⟨1, none⟩ ∧ fromUtf8 [0xa9, 0x61] = .error ⟨0, some 1⟩ ∧
    fromUtf8 [0xc3, 0xa9] = .ok ['é'] := by decide

lemma toUtf8_append (a b : List Char) : toUtf8 (a ++ b) = toUtf8 a ++ toUtf8 b :=
  List.flatMap_append

lemma toUtf8_cons (c : Char) (text : List Char) :
    toUtf8 (c :: text) = String.utf8EncodeChar c ++ toUtf8 text :=
  List.flatMap_cons

/-- **Decoding** succeeds on encoded text and on nothing else. -/
theorem fromUtf8_eq_ok {bytes : List UInt8} {text : List Char} :
    fromUtf8 bytes = .ok text ↔ bytes = toUtf8 text := by
  have hdecode : ∀ text, (toUtf8 text).toByteArray.utf8Decode? = some text.toArray :=
    fun text => List.utf8Decode?_utf8Encode
  constructor
  · intro h
    rw [fromUtf8] at h
    split at h
    next found hfound =>
        obtain rfl := Except.ok.inj h
        have hsome : bytes.toByteArray.utf8Decode?.isSome := by rw [hfound]; rfl
        have hencode : found.toList.utf8Encode = bytes.toByteArray := by
          have hget := @ByteArray.utf8Encode_get_utf8Decode? bytes.toByteArray hsome
          simpa only [hfound, Option.get_some] using hget
        have hbytes : (toUtf8 found.toList).toByteArray.data.toList =
            bytes.toByteArray.data.toList := congrArg (fun b => b.data.toList) hencode
        rw [List.toList_data_toByteArray, List.toList_data_toByteArray] at hbytes
        exact hbytes.symm
    · cases h
  · rintro rfl
    rw [fromUtf8, hdecode]

lemma fromUtf8_toUtf8 (text : List Char) : fromUtf8 (toUtf8 text) = .ok text :=
  fromUtf8_eq_ok.mpr rfl

/-- The bytes consist of whole characters. -/
def IsText (bytes : List UInt8) : Prop := ∃ text, bytes = toUtf8 text

instance (bytes : List UInt8) : Decidable (IsText bytes) :=
  decidable_of_iff ((fromUtf8 bytes).isOk = true) <| by
    constructor
    · intro h
      cases hdecode : fromUtf8 bytes with
      | ok text => exact ⟨text, fromUtf8_eq_ok.mp hdecode⟩
      | error err => rw [hdecode] at h; cases h
    · rintro ⟨text, rfl⟩
      rw [fromUtf8_toUtf8]
      rfl

lemma toUtf8_injective : Function.Injective toUtf8 := by
  intro a b h
  have hdecoded := fromUtf8_toUtf8 a
  rw [h, fromUtf8_toUtf8] at hdecoded
  exact (Except.ok.inj hdecoded).symm

/-- A byte below 128 is a character by itself. -/
lemma utf8EncodeChar_of_mem {c : Char} {b : UInt8} (hb : b.toNat < 128)
    (h : b ∈ String.utf8EncodeChar c) : String.utf8EncodeChar c = [b] := by
  simp only [String.utf8EncodeChar] at h ⊢
  split_ifs at h ⊢
  · rw [List.mem_singleton.mp h]
  -- every byte of a longer character is at least 128
  all_goals
    simp only [List.mem_cons, List.not_mem_nil, or_false] at h
    rcases h with rfl | h
    · simp only [UInt8.toNat_ofNat'] at hb
      omega
  · subst h
    simp only [UInt8.toNat_ofNat'] at hb
    omega
  · rcases h with rfl | rfl
    all_goals
      simp only [UInt8.toNat_ofNat'] at hb
      omega
  · rcases h with rfl | rfl | rfl
    all_goals
      simp only [UInt8.toNat_ofNat'] at hb
      omega

lemma utf8EncodeChar_injective {c d : Char}
    (h : String.utf8EncodeChar c = String.utf8EncodeChar d) : c = d := by
  have htext : toUtf8 [c] = toUtf8 [d] := by simp [toUtf8, h]
  exact (List.cons.inj (toUtf8_injective htext)).1

/-- What precedes an ASCII character in the bytes of a text is text. -/
lemma exists_text_before {c : Char} {b : UInt8} (hb : b.toNat < 128)
    (hc : String.utf8EncodeChar c = [b]) {text after : List Char} {before : List UInt8}
    (h : toUtf8 text = before ++ toUtf8 (c :: after)) :
    ∃ front, text = front ++ c :: after ∧ before = toUtf8 front := by
  rw [toUtf8_cons, hc] at h
  induction text generalizing before with
  | nil =>
      have hlength := congrArg List.length h
      simp [toUtf8] at hlength
  | cons d text ih =>
      rw [toUtf8_cons] at h
      rcases List.append_eq_append_iff.mp h with ⟨rest, rfl, hrest⟩ | ⟨rest, hd, hrest⟩
      · obtain ⟨front, rfl, rfl⟩ := ih hrest
        exact ⟨d :: front, rfl, (toUtf8_cons d front).symm⟩
      · rw [List.singleton_append] at hrest
        cases rest with
        | nil =>
            obtain ⟨front, rfl, hfront⟩ := @ih [] hrest.symm
            rw [List.append_nil] at hd
            exact ⟨d :: front, rfl, by rw [toUtf8_cons, ← hfront, hd, List.append_nil]⟩
        | cons b' rest =>
            obtain ⟨rfl, hrest⟩ := List.cons.inj hrest
            have hd' := utf8EncodeChar_of_mem hb (by rw [hd]; simp)
            obtain rfl := utf8EncodeChar_injective (hd'.trans hc.symm)
            obtain ⟨rfl, rfl⟩ : before = [] ∧ rest = [] := by
              have hsum := hd.symm.trans hd'
              rcases before with _ | ⟨first, before⟩
              · simpa using hsum
              · simp at hsum
            obtain rfl : after = text := toUtf8_injective (List.cons.inj hrest).2
            exact ⟨[], rfl, rfl⟩

/-- The byte of `\n`. -/
def lineEnd : UInt8 := 10

lemma eq_of_lineEnd_mem {c : Char} (h : lineEnd ∈ String.utf8EncodeChar c) : c = '\n' :=
  utf8EncodeChar_injective (utf8EncodeChar_of_mem (by decide) h)

lemma lineEnd_notMem_toUtf8 {text : List Char} (h : '\n' ∉ text) : lineEnd ∉ toUtf8 text := by
  intro hmem
  obtain ⟨c, hc, hb⟩ := List.mem_flatMap.mp hmem
  exact h (eq_of_lineEnd_mem hb ▸ hc)

/-- **The lines of a text in bytes** are the lines of the text. -/
theorem cutLines_toUtf8 (text : List Char) :
    cutLines lineEnd (toUtf8 text) =
      ((cutLines '\n' text).1.map toUtf8, toUtf8 (cutLines '\n' text).2) :=
  cutLines_flatMap (by decide) (fun _ hc hmem => hc (eq_of_lineEnd_mem hmem)) text

/-! ## Messages -/

/-- `IpcMessage`. -/
inductive IpcMessage
  | ShellCommand (command : String)
  | Snapshot (snapshot : Snapshot)
  deriving DecidableEq, Repr

/-- `serde_json`, on messages. -/
structure JsonCodec where
  /-- `to_string`. -/
  toString : IpcMessage → String
  /-- `from_str`. -/
  fromStr : String → Except String IpcMessage

/-- What is documented of `serde_json`: the text of a message is an object without line breaks, and
it is read back as the message. -/
structure JsonCodec.Faithful (codec : JsonCodec) (message : IpcMessage) : Prop where
  roundTrip : codec.fromStr (codec.toString message) = .ok message
  object : ∃ body, (codec.toString message).toList = '{' :: body ++ ['}']
  oneLine : '\n' ∉ (codec.toString message).toList

/-- What is documented of JSON: nothing that begins like an object can stand before the text of a
message. -/
def JsonCodec.Alone (codec : JsonCodec) (message : IpcMessage) : Prop :=
  ∀ front : List Char, front.head? = some '{' →
    codec.fromStr (String.ofList (front ++ (codec.toString message).toList)) ≠ .ok message

/-- What a line is decoded to; one without text is passed over. -/
def JsonCodec.decodeLine (codec : JsonCodec) (raw : List Char) :
    Option (Except String IpcMessage) :=
  let line := trim raw
  if line.isEmpty then none else some (codec.fromStr (String.ofList line))

/-- What is written to the socket for a message. -/
def JsonCodec.payload (codec : JsonCodec) (message : IpcMessage) : List UInt8 :=
  toUtf8 ((codec.toString message).toList ++ ['\n'])

lemma payload_ne_nil (codec : JsonCodec) (message : IpcMessage) : codec.payload message ≠ [] := by
  rw [JsonCodec.payload, toUtf8_append]
  exact List.append_ne_nil_of_right_ne_nil _ (by decide)

/-- The text that carries some messages. -/
def JsonCodec.stream (codec : JsonCodec) (messages : List IpcMessage) : List Char :=
  frame '\n' (messages.map fun message => (codec.toString message).toList)

lemma toUtf8_stream (codec : JsonCodec) (messages : List IpcMessage) :
    toUtf8 (codec.stream messages) = messages.flatMap codec.payload := by
  rw [JsonCodec.stream, frame, List.flatMap_map, toUtf8, List.flatMap_assoc]
  rfl

/-! ## Receiving -/

/-- What a read of the socket returns; no bytes are the end of the stream. -/
inductive ReadResult
  | Ok (bytes : List UInt8)
  | WouldBlock
  /-- `ConnectionReset` or `ConnectionAborted`. -/
  | Disconnected (error : String)
  | Failed (error : String)
  deriving DecidableEq, Repr

/-- The connection stays open. -/
def ReadResult.KeepsOpen : ReadResult → Prop
  | .Ok bytes => bytes ≠ []
  | .WouldBlock => True
  | .Disconnected _ | .Failed _ => False

instance (read : ReadResult) : Decidable read.KeepsOpen :=
  match read with
  | .Ok bytes => inferInstanceAs (Decidable (bytes ≠ []))
  | .WouldBlock => .isTrue trivial
  | .Disconnected _ => .isFalse id
  | .Failed _ => .isFalse id

/-- The receiving end of a connection: the text after the last line, what the lines were decoded to
so far, which nothing reads, and what the messages have led to. -/
structure Rx (σ : Type) where
  buffer : List Char
  decoded : List (Except String IpcMessage)
  state : σ
  deriving DecidableEq

section

variable {σ ε : Type}

/-- A chunk of text is added to the buffer, and every line that is complete is taken out of it and
handled. -/
def Rx.receive (codec : JsonCodec) (handle : σ → Except String IpcMessage → σ) (rx : Rx σ)
    (chunk : List Char) : Rx σ :=
  let cut := cutLines '\n' (rx.buffer ++ chunk)
  let messages := cut.1.filterMap codec.decodeLine
  { buffer := cut.2
    decoded := rx.decoded ++ messages
    state := messages.foldl handle rx.state }

/-- What the two ends do differently. -/
structure Endpoint (σ ε : Type) where
  /-- What a decoded line does. -/
  handle : σ → Except String IpcMessage → σ
  /-- A call reads at all. -/
  isOpen : σ → Bool
  /-- How a call ends when there is no more data. -/
  idle : ε
  eof : σ → ε × σ
  invalidUtf8 : Utf8Error → ε
  disconnected : String → σ → ε × σ
  failed : String → σ → ε × σ
  /-- Whether the next call is made. -/
  continues : ε → Bool
  isOpen_handle : ∀ s message, isOpen (handle s message) = isOpen s
  invalidUtf8_ne : ∀ err, invalidUtf8 err ≠ idle
  continues_idle : continues idle = true

namespace Endpoint

variable (e : Endpoint σ ε) (codec : JsonCodec)

/-- The loop of a call over the reads, and the reads that are left for the next call. -/
def drainLoop (rx : Rx σ) : List ReadResult → ε × Rx σ × List ReadResult
  | [] => (e.idle, rx, [])
  | .Ok bytes :: reads =>
      if bytes = [] then
        let (result, state) := e.eof rx.state
        (result, { rx with state }, reads)
      else
        match fromUtf8 bytes with
        | .ok chunk => drainLoop (rx.receive codec e.handle chunk) reads
        | .error err => (e.invalidUtf8 err, rx, reads)
  | .WouldBlock :: reads => (e.idle, rx, reads)
  | .Disconnected error :: reads =>
      let (result, state) := e.disconnected error rx.state
      (result, { rx with state }, reads)
  | .Failed error :: reads =>
      let (result, state) := e.failed error rx.state
      (result, { rx with state }, reads)

/-- A call. -/
def drain (rx : Rx σ) (reads : List ReadResult) : ε × Rx σ × List ReadResult :=
  if e.isOpen rx.state then e.drainLoop codec rx reads else (e.idle, rx, reads)

/-- So many calls, as long as they are made, with their results. -/
def serve : ℕ → Rx σ → List ReadResult → List ε × Rx σ × List ReadResult
  | 0, rx, reads => ([], rx, reads)
  | n + 1, rx, reads =>
      let (result, rx, reads) := e.drain codec rx reads
      if e.continues result then
        let (results, rx, reads) := serve n rx reads
        (result :: results, rx, reads)
      else ([result], rx, reads)

end Endpoint

/-! ## Streams that are cut -/

/-- The reads of some calls; a call that finds no more data is over. -/
def schedule (calls : List (List (List UInt8))) : List ReadResult :=
  calls.flatMap fun reads => reads.map .Ok ++ [.WouldBlock]

/-- The calls read what is written for the messages, in reads of 1 to 4096 bytes. -/
structure Splits (codec : JsonCodec) (calls : List (List (List UInt8)))
    (messages : List IpcMessage) : Prop where
  size : ∀ read ∈ calls.flatten, 0 < read.length ∧ read.length ≤ 4096
  bytes : calls.flatten.flatten = messages.flatMap codec.payload

/-- Every call comes to its end, the messages that were sent are decoded in order, and the state is
the one that they lead to. -/
structure Endpoint.Delivers (e : Endpoint σ ε) (codec : JsonCodec) (state : σ)
    (calls : List (List (List UInt8))) (messages : List IpcMessage) : Prop where
  kept : (e.serve codec calls.length ⟨[], [], state⟩ (schedule calls)).1 =
    List.replicate calls.length e.idle
  decoded : (e.serve codec calls.length ⟨[], [], state⟩ (schedule calls)).2.1.decoded =
    messages.map .ok
  state : (e.serve codec calls.length ⟨[], [], state⟩ (schedule calls)).2.1.state =
    (messages.map .ok).foldl e.handle state

/-- No read ends inside a character: the reads are parts of the text. -/
def KeepsCharacters (codec : JsonCodec) (calls : List (List (List UInt8)))
    (messages : List IpcMessage) : Prop :=
  CutsText toUtf8 calls.flatten (codec.stream messages)

variable {codec : JsonCodec} {handle : σ → Except String IpcMessage → σ} {rx : Rx σ}

/-- **Where the text is cut makes no difference** to the receiving end. -/
theorem receive_append (a b : List Char) :
    (rx.receive codec handle a).receive codec handle b = rx.receive codec handle (a ++ b) := by
  simp only [Rx.receive, ← List.append_assoc]
  rw [cutLines_append '\n' (rx.buffer ++ a) b, List.filterMap_append, List.foldl_append]
  simp only [List.append_assoc]

lemma receive_nil (h : '\n' ∉ rx.buffer) : rx.receive codec handle [] = rx := by
  simp [Rx.receive, cutLines_of_not_mem h]

lemma not_mem_buffer_receive (chunk : List Char) :
    '\n' ∉ (rx.receive codec handle chunk).buffer :=
  not_mem_cutLines_snd '\n' _

lemma trim_object (body : List Char) : trim ('{' :: body ++ ['}']) = '{' :: body ++ ['}'] := by
  simp [trim, isWhitespace]

lemma decodeLine_toString {message : IpcMessage} (h : codec.Faithful message) :
    codec.decodeLine (codec.toString message).toList = some (.ok message) := by
  obtain ⟨body, hbody⟩ := h.object
  have hline : trim (codec.toString message).toList = (codec.toString message).toList := by
    rw [hbody, trim_object]
  have htext : (codec.toString message).toList.isEmpty = false := by rw [hbody]; rfl
  simp [JsonCodec.decodeLine, hline, htext, h.roundTrip]

/-- **A stream of messages** is decoded to the messages. -/
lemma receive_stream {messages : List IpcMessage} (h : ∀ m ∈ messages, codec.Faithful m)
    (decoded : List (Except String IpcMessage)) (state : σ) :
    (⟨[], decoded, state⟩ : Rx σ).receive codec handle (codec.stream messages) =
      ⟨[], decoded ++ messages.map .ok, (messages.map .ok).foldl handle state⟩ := by
  have hcut : cutLines '\n' (codec.stream messages) =
      (messages.map fun m => (codec.toString m).toList, []) := by
    refine cutLines_frame fun line hline => ?_
    obtain ⟨m, hm, rfl⟩ := List.mem_map.mp hline
    exact (h m hm).oneLine
  have hdecode : (messages.map fun m => (codec.toString m).toList).filterMap codec.decodeLine =
      messages.map .ok := by
    clear hcut
    induction messages with
    | nil => rfl
    | cons m messages ih =>
        obtain ⟨hm, hmessages⟩ := List.forall_mem_cons.mp h
        rw [List.map_cons, List.filterMap_cons_some (decodeLine_toString hm), ih hmessages,
          List.map_cons]
  simp only [Rx.receive, List.nil_append, hcut, hdecode]

namespace Endpoint

variable {e : Endpoint σ ε} {reads : List (List UInt8)} {calls : List (List (List UInt8))}

/-- **A call whose reads are text** handles the text. -/
lemma drainLoop_of_text (e : Endpoint σ ε) (codec : JsonCodec) (rx : Rx σ)
    (hne : ∀ read ∈ reads, read ≠ []) (htext : ∀ read ∈ reads, IsText read)
    (hbuffer : '\n' ∉ rx.buffer) (rest : List ReadResult) :
    ∃ text, toUtf8 text = reads.flatten ∧
      e.drainLoop codec rx (reads.map .Ok ++ rest) =
        e.drainLoop codec (rx.receive codec e.handle text) rest := by
  induction reads generalizing rx with
  | nil => exact ⟨[], rfl, by rw [receive_nil hbuffer]; rfl⟩
  | cons read reads ih =>
      obtain ⟨hread, hreads⟩ := List.forall_mem_cons.mp hne
      obtain ⟨⟨chunk, rfl⟩, htexts⟩ := List.forall_mem_cons.mp htext
      obtain ⟨text, hbytes, hloop⟩ := ih _ hreads htexts (not_mem_buffer_receive chunk)
      refine ⟨chunk ++ text, by rw [toUtf8_append, hbytes, List.flatten_cons], ?_⟩
      rw [List.map_cons, List.cons_append, drainLoop, if_neg hread, fromUtf8_toUtf8]
      rw [← receive_append]
      exact hloop

/-- A call that comes to its end has found text in every read. -/
lemma text_of_drainLoop (hne : ∀ read ∈ reads, read ≠ []) {rest : List ReadResult}
    (hidle : (e.drainLoop codec rx (reads.map .Ok ++ .WouldBlock :: rest)).1 = e.idle) :
    ∀ read ∈ reads, IsText read := by
  induction reads generalizing rx with
  | nil => exact fun _ h => absurd h List.not_mem_nil
  | cons read reads ih =>
      obtain ⟨hread, hne⟩ := List.forall_mem_cons.mp hne
      rw [List.map_cons, List.cons_append, drainLoop, if_neg hread] at hidle
      cases hdecode : fromUtf8 read with
      | ok chunk =>
          rw [hdecode] at hidle
          exact List.forall_mem_cons.mpr ⟨⟨chunk, fromUtf8_eq_ok.mp hdecode⟩, ih hne hidle⟩
      | error err =>
          rw [hdecode] at hidle
          exact absurd hidle (e.invalidUtf8_ne err)

lemma schedule_cons (reads : List (List UInt8)) (calls : List (List (List UInt8))) :
    schedule (reads :: calls) = reads.map .Ok ++ .WouldBlock :: schedule calls := by
  rw [schedule, List.flatMap_cons, List.append_assoc]
  rfl

lemma isOpen_foldl (messages : List (Except String IpcMessage)) (state : σ) :
    e.isOpen (messages.foldl e.handle state) = e.isOpen state := by
  induction messages generalizing state with
  | nil => rfl
  | cons m messages ih => rw [List.foldl_cons, ih, e.isOpen_handle]

/-- **Calls whose reads are text** handle the text, whatever call a read belongs to. -/
lemma serve_of_text (e : Endpoint σ ε) (codec : JsonCodec) (rx : Rx σ)
    (hne : ∀ read ∈ calls.flatten, read ≠ [])
    (htext : ∀ read ∈ calls.flatten, IsText read) (hbuffer : '\n' ∉ rx.buffer)
    (hopen : e.isOpen rx.state = true) :
    ∃ text, toUtf8 text = calls.flatten.flatten ∧
      e.serve codec calls.length rx (schedule calls) =
        (List.replicate calls.length e.idle, rx.receive codec e.handle text, []) := by
  induction calls generalizing rx with
  | nil => exact ⟨[], rfl, by rw [receive_nil hbuffer]; rfl⟩
  | cons reads calls ih =>
      simp only [List.flatten_cons, List.forall_mem_append] at hne htext
      obtain ⟨chunk, hchunk, hloop⟩ :=
        drainLoop_of_text e codec rx hne.1 htext.1 hbuffer (.WouldBlock :: schedule calls)
      obtain ⟨text, hbytes, hserve⟩ := ih (rx.receive codec e.handle chunk) hne.2 htext.2
        (not_mem_buffer_receive chunk) ((isOpen_foldl _ _).trans hopen)
      refine ⟨chunk ++ text, ?_, ?_⟩
      · rw [toUtf8_append, hchunk, hbytes, List.flatten_cons, List.flatten_append]
      · rw [List.length_cons, serve, drain, if_pos hopen, schedule_cons, hloop, drainLoop]
        simp only [e.continues_idle, if_true, hserve, receive_append]
        rfl

/-- Calls that all come to their end have found text in every read. -/
lemma text_of_serve (rx : Rx σ) (hne : ∀ read ∈ calls.flatten, read ≠ [])
    (hbuffer : '\n' ∉ rx.buffer) (hopen : e.isOpen rx.state = true)
    (hidle : (e.serve codec calls.length rx (schedule calls)).1 =
      List.replicate calls.length e.idle) :
    ∀ read ∈ calls.flatten, IsText read := by
  induction calls generalizing rx with
  | nil => exact fun _ h => absurd h List.not_mem_nil
  | cons reads calls ih =>
      simp only [List.flatten_cons, List.forall_mem_append] at hne ⊢
      rw [List.length_cons, serve, drain, if_pos hopen, schedule_cons] at hidle
      have hfirst : (e.drainLoop codec rx (reads.map .Ok ++ .WouldBlock :: schedule calls)).1 =
          e.idle := by
        revert hidle
        generalize e.drainLoop codec rx (reads.map .Ok ++ .WouldBlock :: schedule calls) = r
        obtain ⟨result, rx', rest⟩ := r
        intro hidle
        simp only [List.replicate_succ] at hidle
        split_ifs at hidle
        · exact (List.cons.inj hidle).1
        · exact (List.cons.inj hidle).1
      have htext := text_of_drainLoop hne.1 hfirst
      obtain ⟨chunk, -, hloop⟩ :=
        drainLoop_of_text e codec rx hne.1 htext hbuffer (.WouldBlock :: schedule calls)
      refine ⟨htext, ih (rx.receive codec e.handle chunk) hne.2
        (not_mem_buffer_receive chunk) ((isOpen_foldl _ _).trans hopen) ?_⟩
      rw [hloop, drainLoop] at hidle
      simp only [e.continues_idle, if_true, List.replicate_succ] at hidle
      exact (List.cons.inj hidle).2

/-- On a connection that stays open, the loop handles some messages. -/
lemma drainLoop_of_open (e : Endpoint σ ε) (codec : JsonCodec) (rx : Rx σ) {reads : List ReadResult}
    (hreads : ∀ read ∈ reads, read.KeepsOpen) :
    ∃ messages, (e.drainLoop codec rx reads).2.1.decoded = rx.decoded ++ messages ∧
      (e.drainLoop codec rx reads).2.1.state = messages.foldl e.handle rx.state := by
  induction reads generalizing rx with
  | nil => exact ⟨[], (List.append_nil _).symm, rfl⟩
  | cons read reads ih =>
      obtain ⟨hread, hrest⟩ := List.forall_mem_cons.mp hreads
      cases read with
      | Ok bytes =>
          rw [drainLoop, if_neg hread]
          cases hdecode : fromUtf8 bytes with
          | ok chunk =>
              obtain ⟨messages, hdecoded, hstate⟩ := ih (rx.receive codec e.handle chunk) hrest
              refine ⟨(cutLines '\n' (rx.buffer ++ chunk)).1.filterMap codec.decodeLine ++ messages,
                ?_, ?_⟩
              · rw [hdecoded, ← List.append_assoc]
                rfl
              · rw [hstate, List.foldl_append]
                rfl
          | error err => exact ⟨[], (List.append_nil _).symm, rfl⟩
      | WouldBlock => exact ⟨[], (List.append_nil _).symm, rfl⟩
      | Disconnected error => exact hread.elim
      | Failed error => exact hread.elim

/-- **A call on a connection that stays open** does what its loop does, or nothing. -/
lemma drain_of_open (e : Endpoint σ ε) (codec : JsonCodec) (rx : Rx σ) {reads : List ReadResult}
    (hreads : ∀ read ∈ reads, read.KeepsOpen) :
    ∃ messages, (e.drain codec rx reads).2.1.decoded = rx.decoded ++ messages ∧
      (e.drain codec rx reads).2.1.state = messages.foldl e.handle rx.state := by
  rw [drain]
  split_ifs
  · exact drainLoop_of_open e codec rx hreads
  · exact ⟨[], (List.append_nil _).symm, rfl⟩

/-- **An endpoint that drops the client** at the first read that is not text has handled the reads
before it. -/
lemma serve_of_drops (e : Endpoint σ ε) (codec : JsonCodec)
    (hdrops : ∀ err, e.continues (e.invalidUtf8 err) = false) (rx : Rx σ)
    (hne : ∀ read ∈ calls.flatten, read ≠ []) (hbuffer : '\n' ∉ rx.buffer)
    (hopen : e.isOpen rx.state = true) :
    ∃ text, toUtf8 text =
        (calls.flatten.takeWhile fun read => decide (IsText read)).flatten ∧
      (e.serve codec calls.length rx (schedule calls)).2.1 = rx.receive codec e.handle text := by
  induction calls generalizing rx with
  | nil => exact ⟨[], rfl, by rw [receive_nil hbuffer]; rfl⟩
  | cons reads calls ih =>
      simp only [List.flatten_cons, List.forall_mem_append] at hne
      by_cases htext : ∀ read ∈ reads, IsText read
      · obtain ⟨chunk, hchunk, hloop⟩ :=
          drainLoop_of_text e codec rx hne.1 htext hbuffer (.WouldBlock :: schedule calls)
        obtain ⟨text, hbytes, hserve⟩ := ih (rx.receive codec e.handle chunk) hne.2
          (not_mem_buffer_receive chunk) ((isOpen_foldl _ _).trans hopen)
        refine ⟨chunk ++ text, ?_, ?_⟩
        · rw [toUtf8_append, hchunk, hbytes, List.flatten_cons,
            List.takeWhile_append_of_pos (by simpa using htext), List.flatten_append]
        · rw [List.length_cons, serve, drain, if_pos hopen, schedule_cons, hloop, drainLoop]
          simp only [e.continues_idle, if_true, hserve, receive_append]
      · -- the call ends at the first read that is not text
        obtain ⟨front, read, back, rfl, hfront, hread⟩ : ∃ front read back,
            reads = front ++ read :: back ∧ (∀ r ∈ front, IsText r) ∧ ¬ IsText read := by
          obtain ⟨r, hr, hnot⟩ : ∃ r ∈ reads, ¬ IsText r := by simpa using htext
          obtain ⟨read, hfind⟩ := Option.isSome_iff_exists.mp
            ((@List.find?_isSome _ _ fun r => decide (¬ IsText r)).mpr ⟨r, hr, decide_eq_true hnot⟩)
          obtain ⟨hread, front, back, rfl, hfront⟩ := List.find?_eq_some_iff_append.mp hfind
          exact ⟨front, read, back, rfl, by simpa using hfront, of_decide_eq_true hread⟩
        obtain ⟨text, hbytes, hloop⟩ := drainLoop_of_text e codec rx
          (fun r hr => hne.1 r (by simp [hr])) hfront hbuffer
          (.Ok read :: back.map .Ok ++ .WouldBlock :: schedule calls)
        obtain ⟨err, hdecode⟩ : ∃ err, fromUtf8 read = .error err := by
          cases hdecode : fromUtf8 read with
          | ok chunk => exact absurd ⟨chunk, fromUtf8_eq_ok.mp hdecode⟩ hread
          | error err => exact ⟨err, rfl⟩
        refine ⟨text, ?_, ?_⟩
        · rw [hbytes, List.flatten_cons, List.append_assoc,
            List.takeWhile_append_of_pos (by simpa using hfront), List.cons_append,
            List.takeWhile_cons_of_neg (by simpa using hread), List.append_nil]
        · have hsplit : (front ++ read :: back).map ReadResult.Ok ++ .WouldBlock :: schedule calls =
              front.map .Ok ++ (.Ok read :: back.map .Ok ++ .WouldBlock :: schedule calls) := by
            simp
          rw [List.length_cons, serve, drain, if_pos hopen, schedule_cons, hsplit, hloop,
            List.cons_append, drainLoop, if_neg (hne.1 read (by simp)), hdecode]
          simp only [hdrops, Bool.false_eq_true, if_false]

/-- **An endpoint gets what was sent** exactly when no read ends inside a character. -/
theorem delivers_iff {messages : List IpcMessage} {state : σ} (hopen : e.isOpen state = true)
    (hfaithful : ∀ m ∈ messages, codec.Faithful m) (hsplit : Splits codec calls messages) :
    e.Delivers codec state calls messages ↔ KeepsCharacters codec calls messages := by
  have hbytes : calls.flatten.flatten = toUtf8 (codec.stream messages) :=
    hsplit.bytes.trans (toUtf8_stream codec messages).symm
  have hne : ∀ read ∈ calls.flatten, read ≠ [] := by
    rintro read hread rfl
    exact absurd (hsplit.size [] hread).1 (by simp)
  rw [KeepsCharacters, cutsText_iff rfl toUtf8_append toUtf8_injective hbytes]
  constructor
  · exact fun h => text_of_serve _ hne List.not_mem_nil hopen h.kept
  · intro htext
    obtain ⟨text, htotal, hserve⟩ :=
      serve_of_text e codec ⟨[], [], state⟩ hne htext List.not_mem_nil hopen
    obtain rfl := toUtf8_injective (htotal.trans hbytes)
    rw [receive_stream hfaithful, List.nil_append] at hserve
    exact ⟨by rw [hserve], by rw [hserve], by rw [hserve]⟩

end Endpoint

end

/-! ## The daemon -/

/-- `ClientDrainOutcome`. -/
inductive ClientDrainOutcome
  | Alive
  | DisconnectedGraceful
  | DisconnectedError (error : String)
  deriving DecidableEq, Repr

/-- `pending_shell_events` and `pending_shell_commands`. -/
structure PendingShell where
  events : List IpcEvent
  commands : List String
  deriving DecidableEq, Repr

/-- What the daemon does with a decoded line. -/
def PendingShell.handle (pending : PendingShell) : Except String IpcMessage → PendingShell
  | .ok (.ShellCommand command) =>
      { events := pending.events ++ [⟨.Shell, s!"chalybs> {command}"⟩]
        commands := pending.commands ++ [command] }
  | .ok (.Snapshot _) => pending
  | .error err =>
      { pending with
        events := pending.events ++ [⟨.Error, s!"daemon: invalid IPC message: {err}"⟩] }

/-- The daemon, as one end of a connection.  It drops a client after any error. -/
def daemonEndpoint : Endpoint PendingShell ClientDrainOutcome where
  handle := PendingShell.handle
  isOpen _ := true
  idle := .Alive
  eof pending := (.DisconnectedGraceful, pending)
  invalidUtf8 _ := .DisconnectedError "invalid UTF-8 from client"
  disconnected _ pending := (.DisconnectedGraceful, pending)
  failed _ pending := (.DisconnectedError "read error from client", pending)
  continues outcome := decide (outcome = .Alive)
  isOpen_handle _ _ := rfl
  invalidUtf8_ne _ := by decide
  continues_idle := rfl

/-- `drain_client_commands`. -/
def drainClientCommands (codec : JsonCodec) :
    Rx PendingShell → List ReadResult → ClientDrainOutcome × Rx PendingShell × List ReadResult :=
  daemonEndpoint.drain codec

end Chalybs
