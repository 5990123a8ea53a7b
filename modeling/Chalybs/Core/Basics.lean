import Mathlib.Algebra.Order.Ring.Nat
import Mathlib.Data.List.Basic
import Mathlib.Tactic.Common

/-!
# Errors, text and numbers

The error type every fallible function returns, and the parts of the standard library's text
handling the program relies on: `trim`, `split_whitespace`, `split_once` and the integer parsers.
They work on the characters of a string, and follow the documented behaviour of the originals,
including the leading `+` that the integer parsers accept and the order in which they detect an
invalid digit and an overflow.

`parseCpuList` (`util.rs`) is the strict CPU-list parser built on them.
-/

namespace Chalybs

/-- `errors.rs`: every error carries its text; the constructor gives the prefix it is shown
with. -/
inductive ChalybsError
  | Config (msg : String)
  | Cgroup (msg : String)
  | Qemu (msg : String)
  | Vfio (msg : String)
  | Irq (msg : String)
  | Affinity (msg : String)
  | Peripheral (msg : String)
  | State (msg : String)
  | Io (msg : String)
  | Serde (msg : String)
  | Toml (msg : String)
  | Other (msg : String)
  deriving DecidableEq, Repr

/-- The `Display` text of an error. -/
def ChalybsError.display : ChalybsError → String
  | .Config msg => s!"configuration error: {msg}"
  | .Cgroup msg => s!"cgroup/cpuset error: {msg}"
  | .Qemu msg => s!"QEMU error: {msg}"
  | .Vfio msg => s!"VFIO error: {msg}"
  | .Irq msg => s!"IRQ error: {msg}"
  | .Affinity msg => s!"Affinity error: {msg}"
  | .Peripheral msg => s!"Peripheral error: {msg}"
  | .State msg => s!"State transition error: {msg}"
  | .Io msg => s!"IO error: {msg}"
  | .Serde msg => s!"Serde error: {msg}"
  | .Toml msg => s!"Toml error: {msg}"
  | .Other msg => s!"Other: {msg}"

/-! ## Text -/

/-- `char::is_whitespace`: the characters with the Unicode property `White_Space`. -/
def isWhitespace (c : Char) : Bool :=
  (0x09 ≤ c.toNat && c.toNat ≤ 0x0d) || c.toNat == 0x20 || c.toNat == 0x85 || c.toNat == 0xa0
    || c.toNat == 0x1680 || (0x2000 ≤ c.toNat && c.toNat ≤ 0x200a) || c.toNat == 0x2028
    || c.toNat == 0x2029 || c.toNat == 0x202f || c.toNat == 0x205f || c.toNat == 0x3000

/-- `str::trim`. -/
def trim (s : List Char) : List Char :=
  ((s.dropWhile isWhitespace).reverse.dropWhile isWhitespace).reverse

/-- `str::split_whitespace`: the maximal runs of characters that are not white space. -/
def splitWhitespace (s : List Char) : List (List Char) :=
  (s.splitOnP isWhitespace).filter fun part => !part.isEmpty

/-- `str::len`, which counts bytes. -/
def byteLen (s : List Char) : ℕ := (s.map Char.utf8Size).sum

/-- `str::split_once`: the parts before and after the first occurrence of `sep`. -/
def splitOnce (sep : Char) (s : List Char) : Option (List Char × List Char) :=
  match s.dropWhile fun c => c != sep with
  | [] => none
  | _ :: rest => some (s.takeWhile fun c => c != sep, rest)

/-- `join(sep)`. -/
def joinWith (sep : String) (parts : List String) : String := sep.intercalate parts

def commaList : List String → String := joinWith ","

/-- A number in lower-case hexadecimal, padded with zeros to the width. -/
def hexPadded (width n : ℕ) : String := String.ofList ((Nat.toDigits 16 n).leftpad width '0')

/-! ## Integers -/

/-- `std::num::IntErrorKind`, as far as the unsigned parsers report it. -/
inductive ParseIntError
  | Empty
  | InvalidDigit
  | PosOverflow
  deriving DecidableEq, Repr

def ParseIntError.display : ParseIntError → String
  | .Empty => "cannot parse integer from empty string"
  | .InvalidDigit => "invalid digit found in string"
  | .PosOverflow => "number too large to fit in target type"

/-- `char::to_digit`. -/
def toDigit (radix : ℕ) (c : Char) : Option ℕ :=
  let d? :=
    if '0' ≤ c ∧ c ≤ '9' then some (c.toNat - '0'.toNat)
    else if 'a' ≤ c ∧ c ≤ 'z' then some (c.toNat - 'a'.toNat + 10)
    else if 'A' ≤ c ∧ c ≤ 'Z' then some (c.toNat - 'A'.toNat + 10)
    else none
  d?.bind fun d => if d < radix then some d else none

/-- The digit loop of the unsigned parsers, for a type whose values are below `bound`. -/
def parseDigits (radix bound : ℕ) : ℕ → List Char → Except ParseIntError ℕ
  | acc, [] => .ok acc
  | acc, c :: cs =>
      match toDigit radix c with
      | none => .error .InvalidDigit
      | some d =>
          if acc * radix + d < bound then parseDigits radix bound (acc * radix + d) cs
          else .error .PosOverflow

/-- `from_str_radix` of an unsigned type whose values are below `bound`. -/
def fromStrRadix (radix bound : ℕ) : List Char → Except ParseIntError ℕ
  | [] => .error .Empty
  | ['+'] => .error .InvalidDigit
  | '+' :: cs => parseDigits radix bound 0 cs
  | cs => parseDigits radix bound 0 cs

/-- `str::parse::<u32>`. -/
def parseU32 (s : List Char) : Except ParseIntError ℕ := fromStrRadix 10 (2 ^ 32) s

/-- The first `n + 1` numbers of a range `a..=a + n`, or none at all when it is reversed. -/
def inclusiveRange (a b : ℕ) : List ℕ := List.range' a (b + 1 - a)

/-- One trimmed, non-empty part of a CPU list: a number or a range. -/
def parseCpuPart (part : List Char) : Except ChalybsError (List ℕ) :=
  match splitOnce '-' part with
  | some (first, last) =>
      match parseU32 first with
      | .error e => .error (.Config
          s!"invalid cpu range start '{String.ofList first}': {e.display}")
      | .ok a =>
          match parseU32 last with
          | .error e => .error (.Config
              s!"invalid cpu range end '{String.ofList last}': {e.display}")
          | .ok b => .ok (inclusiveRange a b)
  | none =>
      match parseU32 part with
      | .error e => .error (.Config s!"invalid cpu '{String.ofList part}': {e.display}")
      | .ok a => .ok [a]

/-- The loop of `parse_cpu_list` over the parts: the first part that does not parse ends it. -/
def parseCpuParts : List (List Char) → Except ChalybsError (List ℕ)
  | [] => .ok []
  | part :: parts => do
      let cpus ← parseCpuPart part
      let rest ← parseCpuParts parts
      pure (cpus ++ rest)

/-- `util::parse_cpu_list`: CPU list strings like `0-3,8,9,10-12`. -/
def parseCpuList (s : String) : Except ChalybsError (List ℕ) :=
  parseCpuParts (((s.toList.splitOn ',').map trim).filter fun part => !part.isEmpty)

example : parseCpuList "0-3, 8,,10-9" = .ok [0, 1, 2, 3, 8] := by decide

/-- `parse_vcpu_name`, of `affinity.rs` and of the daemon: the number in a thread name like
`CPU 3/KVM`. -/
def parseVcpuName (name : String) : Option ℕ :=
  match name.toList with
  | 'C' :: 'P' :: 'U' :: ' ' :: rest =>
      let digits := rest.takeWhile Char.isDigit
      if digits.isEmpty then none else (parseU32 digits).toOption
  | _ => none

end Chalybs
