import Chalybs.Core.Numerals
import Chalybs.Cpu.Reserve
import Chalybs.Foundation.Lists

/-!
# CPU lists as texts

The configuration and sysfs name CPUs by texts like `0-3,8`, which `parse_cpu_list` (`util.rs`)
reads, and `format_cpu_list` writes such texts to the files of the cpusets and of the interrupts.

* `CpuPart`, `DenotesCpus` — the grammar: numbers and ranges `a-b` with `a ≤ b`.
* `SlipsThrough` — the other parts that the parser lets pass.
* `denotesCpus_iff_iff` — for which texts the parser decides the grammar.
* `denotesCpus_joinWith`, `denotesCpus_formatCpuList` — what is written stands for the CPUs.
* `readers_agree` — both parsers read the same wherever the strict one accepts.
-/

namespace Chalybs

/-! ## The grammar -/

/-- Digits that denote a number below `2 ^ 32`. -/
def CpuNumber (cs : List Char) (n : ℕ) : Prop := Decimal cs n ∧ n < 2 ^ 32

/-- A part of a CPU list, and the CPUs that it stands for. -/
inductive CpuPart : List Char → List ℕ → Prop
  | number {part : List Char} {n : ℕ} : CpuNumber part n → CpuPart part [n]
  | range {first last : List Char} {a b : ℕ} : CpuNumber first a → CpuNumber last b → a ≤ b →
      CpuPart (first ++ '-' :: last) (inclusiveRange a b)

/-- The text is a CPU list, and stands for these CPUs. -/
def DenotesCpus (s : String) (cpus : List ℕ) : Prop :=
  ∃ lists, List.Forall₂ CpuPart (cpuParts s) lists ∧ cpus = lists.flatten

/-! ## What the parser reads -/

/-- A number behind a plus sign. -/
def SignedNumber (cs : List Char) (n : ℕ) : Prop := ∃ ds, cs = '+' :: ds ∧ CpuNumber ds n

/-- What the parser takes for a number. -/
def ReadsNumber (cs : List Char) (n : ℕ) : Prop := CpuNumber cs n ∨ SignedNumber cs n

/-- The parts that the parser accepts although they are none of the grammar: those with a plus sign,
and reversed ranges. -/
inductive SlipsThrough : List Char → Prop
  | number {part : List Char} {n : ℕ} : SignedNumber part n → SlipsThrough part
  | range {first last : List Char} {a b : ℕ} : ReadsNumber first a → ReadsNumber last b →
      SignedNumber first a ∨ SignedNumber last b ∨ b < a → SlipsThrough (first ++ '-' :: last)

section

variable {part first last : List Char} {cpus : List ℕ} {n a b : ℕ}

lemma parseU32_iff_reads : parseU32 part = .ok n ↔ ReadsNumber part n := by
  rw [parseU32_eq_ok, ReadsNumber, SignedNumber]
  constructor
  · rintro ⟨h | ⟨ds, rfl, h⟩, hlt⟩
    · exact .inl ⟨h, hlt⟩
    · exact .inr ⟨ds, rfl, h, hlt⟩
  · rintro (⟨h, hlt⟩ | ⟨ds, rfl, h, hlt⟩)
    · exact ⟨.inl h, hlt⟩
    · exact ⟨.inr ⟨ds, rfl, h⟩, hlt⟩

lemma ReadsNumber.unique (h : ReadsNumber part a) (h' : ReadsNumber part b) : a = b :=
  Except.ok.inj ((parseU32_iff_reads.mpr h).symm.trans (parseU32_iff_reads.mpr h'))

/-- A number of the grammar has no sign. -/
lemma CpuNumber.not_signed (h : CpuNumber part a) : ¬ SignedNumber part b := by
  rintro ⟨ds, rfl, -⟩
  exact h.1.not_mem (by decide : ('+').isDigit = false) List.mem_cons_self

lemma ReadsNumber.minus_not_mem (h : ReadsNumber part n) : '-' ∉ part := by
  have hdigit : ('-').isDigit = false := by decide
  rcases h with h | ⟨ds, rfl, h⟩
  · exact h.1.not_mem hdigit
  · simpa using h.1.not_mem hdigit

/-- A part without a minus sign is read as a number. -/
lemma parseCpuPart_number (hpart : '-' ∉ part) :
    parseCpuPart part = .ok cpus ↔ ∃ n, ReadsNumber part n ∧ cpus = [n] := by
  simp only [parseCpuPart, splitOnce_of_not_mem hpart, ← parseU32_iff_reads]
  cases parseU32 part with
  | error e => simp
  | ok n => simp [eq_comm]

/-- A part with a minus sign is read as a range. -/
lemma parseCpuPart_range (hfirst : '-' ∉ first) :
    parseCpuPart (first ++ '-' :: last) = .ok cpus ↔
      ∃ a b, ReadsNumber first a ∧ ReadsNumber last b ∧ cpus = inclusiveRange a b := by
  simp only [parseCpuPart, splitOnce_append hfirst, ← parseU32_iff_reads]
  cases parseU32 first with
  | error e => simp
  | ok a =>
      cases parseU32 last with
      | error e => simp
      | ok b => simp [eq_comm]

/-- The parser accepts the parts of the grammar. -/
lemma CpuPart.parse (h : CpuPart part cpus) : parseCpuPart part = .ok cpus := by
  cases h with
  | number hn =>
      have hreads : ReadsNumber part _ := .inl hn
      exact (parseCpuPart_number hreads.minus_not_mem).mpr ⟨_, hreads, rfl⟩
  | @range first last a b ha hb hle =>
      have hreads : ReadsNumber first a := .inl ha
      exact (parseCpuPart_range hreads.minus_not_mem).mpr ⟨a, b, hreads, .inl hb, rfl⟩

/-- What slips through is accepted. -/
lemma SlipsThrough.accepted (h : SlipsThrough part) : ∃ cpus, parseCpuPart part = .ok cpus := by
  cases h with
  | @number _ n hn =>
      have hreads : ReadsNumber part n := .inr hn
      exact ⟨[n], (parseCpuPart_number hreads.minus_not_mem).mpr ⟨n, hreads, rfl⟩⟩
  | @range first last a b ha hb hslip =>
      exact ⟨_, (parseCpuPart_range ha.minus_not_mem).mpr ⟨a, b, ha, hb, rfl⟩⟩

/-- What slips through is no part of the grammar. -/
lemma SlipsThrough.not_cpuPart (h : SlipsThrough part) : ¬ CpuPart part cpus := by
  cases h with
  | @number _ n hn =>
      have hreads : ReadsNumber part n := .inr hn
      rintro (hnum | ⟨ha, hb, hle⟩)
      · exact hnum.not_signed hn
      · exact hreads.minus_not_mem (by simp)
  | @range first last a b ha hb hslip =>
      intro hpart
      generalize heq : first ++ '-' :: last = whole at hpart
      cases hpart with
      | number hnum =>
          have hreads : ReadsNumber whole _ := .inl hnum
          exact hreads.minus_not_mem (by simp [← heq])
      | @range first' last' a' b' ha' hb' hle =>
          have hsplit := congrArg (splitOnce '-') heq
          have hreads : ReadsNumber first' a' := .inl ha'
          rw [splitOnce_append ha.minus_not_mem, splitOnce_append hreads.minus_not_mem] at hsplit
          obtain ⟨rfl, rfl⟩ := Prod.mk.inj (Option.some.inj hsplit)
          rcases hslip with hsigned | hsigned | hlt
          · exact ha'.not_signed hsigned
          · exact hb'.not_signed hsigned
          · have haa' := ha.unique hreads
            have hbb' := hb.unique (.inl hb')
            omega

/-- **What the parser accepts** is a part of the grammar, or it slips through. -/
lemma cpuPart_of_parse (h : parseCpuPart part = .ok cpus) (hslip : ¬ SlipsThrough part) :
    CpuPart part cpus := by
  rcases exists_first_separator '-' part with hnone | ⟨first, last, rfl, hfirst⟩
  · obtain ⟨n, hn | hn, rfl⟩ := (parseCpuPart_number hnone).mp h
    · exact .number hn
    · exact absurd (.number hn) hslip
  · obtain ⟨a, b, ha, hb, rfl⟩ := (parseCpuPart_range hfirst).mp h
    have hnot := fun h => hslip (.range ha hb h)
    have ha' := ha.resolve_right fun h => hnot (.inl h)
    have hb' := hb.resolve_right fun h => hnot (.inr (.inl h))
    exact .range ha' hb' (Nat.le_of_not_lt fun h => hnot (.inr (.inr h)))

end

/-! ## Whole lists -/

/-- The parser reads a list part by part. -/
lemma parseCpuParts_eq_ok {parts : List (List Char)} {cpus : List ℕ} :
    parseCpuParts parts = .ok cpus ↔
      ∃ lists, List.Forall₂ (fun part list => parseCpuPart part = .ok list) parts lists ∧
        cpus = lists.flatten := by
  induction parts generalizing cpus with
  | nil =>
      constructor
      · intro h
        exact ⟨[], .nil, (Except.ok.inj h).symm⟩
      · rintro ⟨lists, hlists, rfl⟩
        rw [List.forall₂_nil_left_iff.mp hlists]
        rfl
  | cons part parts ih =>
      constructor
      · intro h
        obtain ⟨first, hfirst, h⟩ := Foundation.except_bind_eq_ok.mp h
        obtain ⟨rest, hrest, h⟩ := Foundation.except_bind_eq_ok.mp h
        obtain ⟨lists, hlists, rfl⟩ := ih.mp hrest
        exact ⟨first :: lists, .cons hfirst hlists, (Except.ok.inj h).symm⟩
      · rintro ⟨lists, hlists, rfl⟩
        obtain ⟨first, rest, hfirst, hrest, rfl⟩ := List.forall₂_cons_left_iff.mp hlists
        refine Foundation.except_bind_eq_ok.mpr ⟨first, hfirst, ?_⟩
        exact Foundation.except_bind_eq_ok.mpr ⟨rest.flatten, ih.mpr ⟨rest, hrest, rfl⟩, rfl⟩

/-- The part makes the parser refuse the whole list. -/
def Malformed (part : List Char) : Prop := (∀ cpus, ¬ CpuPart part cpus) ∧ ¬ SlipsThrough part

section

variable {s : String} {cpus : List ℕ}

/-- A list of the grammar is accepted, and read as what it stands for. -/
lemma DenotesCpus.parse (h : DenotesCpus s cpus) : parseCpuList s = .ok cpus := by
  obtain ⟨lists, hlists, rfl⟩ := h
  exact parseCpuParts_eq_ok.mpr ⟨lists, hlists.imp fun _ _ h => h.parse, rfl⟩

/-- Each part of a list of the grammar stands for some CPUs. -/
lemma DenotesCpus.cpuPart (h : DenotesCpus s cpus) {part : List Char} (hpart : part ∈ cpuParts s) :
    ∃ list, CpuPart part list := by
  obtain ⟨lists, hlists, -⟩ := h
  exact Foundation.exists_of_forall₂ hlists hpart

/-- Each part of a list that is accepted is. -/
lemma part_of_parse (h : parseCpuList s = .ok cpus) {part : List Char} (hpart : part ∈ cpuParts s) :
    ∃ list, parseCpuPart part = .ok list := by
  obtain ⟨lists, hlists, -⟩ := parseCpuParts_eq_ok.mp h
  exact Foundation.exists_of_forall₂ hlists hpart

/-- A list that is accepted, and in which nothing slips through, is one of the grammar. -/
lemma denotesCpus_of_parse (h : parseCpuList s = .ok cpus)
    (hslip : ∀ part ∈ cpuParts s, ¬ SlipsThrough part) : DenotesCpus s cpus := by
  obtain ⟨lists, hlists, rfl⟩ := parseCpuParts_eq_ok.mp h
  refine ⟨lists, ((List.forall₂_and_left _ _).mpr ⟨hslip, hlists⟩).imp ?_, rfl⟩
  exact fun _ _ hpart => cpuPart_of_parse hpart.2 hpart.1

/-- A list without malformed parts is accepted. -/
lemma exists_parse (h : ∀ part ∈ cpuParts s, ¬ Malformed part) :
    ∃ cpus, parseCpuList s = .ok cpus := by
  have haccepted : ∀ part ∈ cpuParts s, ∃ list, parseCpuPart part = .ok list := by
    intro part hpart
    by_cases hslip : SlipsThrough part
    · exact hslip.accepted
    · by_contra hnone
      exact h part hpart ⟨fun list hlist => hnone ⟨list, hlist.parse⟩, hslip⟩
  obtain ⟨lists, hlists⟩ := Foundation.exists_forall₂ haccepted
  exact ⟨lists.flatten, parseCpuParts_eq_ok.mpr ⟨lists, hlists, rfl⟩⟩

/-- **For which texts the parser decides the grammar**: for those in which nothing slips through,
unless another part is malformed. -/
theorem denotesCpus_iff_iff (s : String) :
    (∀ cpus, parseCpuList s = .ok cpus ↔ DenotesCpus s cpus) ↔
      (∃ part ∈ cpuParts s, Malformed part) ∨ ∀ part ∈ cpuParts s, ¬ SlipsThrough part := by
  constructor
  · intro hexact
    by_cases hmalformed : ∃ part ∈ cpuParts s, Malformed part
    · exact .inl hmalformed
    · -- the list is accepted, so the grammar has all its parts
      push Not at hmalformed
      obtain ⟨cpus, hcpus⟩ := exists_parse hmalformed
      refine .inr fun part hpart hslip => ?_
      obtain ⟨list, hlist⟩ := ((hexact cpus).mp hcpus).cpuPart hpart
      exact hslip.not_cpuPart hlist
  · rintro (⟨part, hpart, hmalformed⟩ | hslip) cpus
    · constructor
      · intro h
        obtain ⟨list, hlist⟩ := part_of_parse h hpart
        exact absurd (cpuPart_of_parse hlist hmalformed.2) (hmalformed.1 list)
      · exact DenotesCpus.parse
    · exact ⟨fun h => denotesCpus_of_parse h hslip, DenotesCpus.parse⟩

/-- A reversed range slips through, and its CPUs are missing from the list. -/
theorem reversed_range_dropped :
    ¬ ∀ cpus, parseCpuList "0-3,9-5" = .ok cpus ↔ DenotesCpus "0-3,9-5" cpus := by
  intro hexact
  have hslip : SlipsThrough ['9', '-', '5'] := by
    have hnine : ReadsNumber ['9'] 9 := parseU32_iff_reads.mp (by decide)
    have hfive : ReadsNumber ['5'] 5 := parseU32_iff_reads.mp (by decide)
    exact .range hnine hfive (.inr (.inr (by decide)))
  obtain ⟨list, hlist⟩ := ((hexact [0, 1, 2, 3]).mp (by decide)).cpuPart
    (by decide : ['9', '-', '5'] ∈ cpuParts "0-3,9-5")
  exact hslip.not_cpuPart hlist

end

/-! ## Writing a list -/

section

variable {cpus : List ℕ}

lemma Decimal.trim_eq_self {cs : List Char} {n : ℕ} (h : Decimal cs n) : trim cs = cs := by
  refine Chalybs.trim_eq_self fun c hc => ?_
  exact not_isWhitespace_of_toDigit ((toDigit_ten c).trans (if_pos (h.2.1 c hc)))

/-- Numbers joined by commas are split into the numbers. -/
lemma parts_intercalate {texts : List (List Char)} (h : ∀ text ∈ texts, ∃ n, Decimal text n) :
    ((([','].intercalate texts).splitOn ',').map trim).filter (fun part => !part.isEmpty) =
      texts := by
  by_cases hnil : texts = []
  · rw [hnil]
    decide
  have hcomma : ∀ text ∈ texts, ',' ∉ text := by
    intro text htext
    obtain ⟨n, hn⟩ := h text htext
    exact hn.not_mem (by decide)
  have htrim : texts.map trim = texts := by
    conv_rhs => rw [← List.map_id texts]
    refine List.map_congr_left fun text htext => ?_
    obtain ⟨n, hn⟩ := h text htext
    exact hn.trim_eq_self
  rw [List.splitOn_intercalate ',' hcomma hnil, htrim, List.filter_eq_self]
  intro text htext
  obtain ⟨n, hn⟩ := h text htext
  simpa using hn.1

/-- The parts of a text that is written are the numbers. -/
lemma cpuParts_joinWith (numbers : List ℕ) :
    cpuParts (joinWith "," (numbers.map toString)) = numbers.map fun n => (toString n).toList := by
  have hlist : (joinWith "," (numbers.map toString)).toList =
      [','].intercalate (numbers.map fun n => (toString n).toList) := by
    rw [joinWith, String.toList_intercalate, List.map_map]
    rfl
  rw [cpuParts, hlist]
  refine parts_intercalate fun text htext => ?_
  obtain ⟨n, -, rfl⟩ := List.mem_map.mp htext
  exact ⟨n, decimal_toString n⟩

/-- **Numbers with commas between them** are read as these numbers. -/
lemma denotesCpus_joinWith {numbers : List ℕ} (h : ∀ n ∈ numbers, n < 2 ^ 32) :
    DenotesCpus (joinWith "," (numbers.map toString)) numbers := by
  refine ⟨numbers.map fun n => [n], ?_, ?_⟩
  · rw [cpuParts_joinWith, List.forall₂_map_left_iff, List.forall₂_map_right_iff]
    exact List.forall₂_same.mpr fun n hn => .number ⟨decimal_toString n, h n hn⟩
  · rw [← List.flatMap_def, List.flatMap_singleton']

/-- **What is written** stands for the CPUs, in order and each once. -/
lemma denotesCpus_formatCpuList (h : ∀ cpu ∈ cpus, cpu < 2 ^ 32) :
    DenotesCpus (formatCpuList cpus) (sortDedup cpus) :=
  denotesCpus_joinWith fun cpu hcpu => h cpu (mem_sortDedup.mp hcpu)

end

/-! ## Both readers -/

/-- **The readers agree.**  Wherever the strict parser accepts a text, the lenient one reads the
same CPUs; and where the strict reader finds the nodes of the node directory, the lenient one finds
those that have CPUs, with the same CPUs. -/
theorem readers_agree :
    (∀ s cpus, parseCpuList s = .ok cpus → parseCpulist s = cpus) ∧
      ∀ (sys : NumaSysfs) nodes topology, sys.readNodeDir = .ok nodes →
        sys.fromSysfs = .ok topology →
          topology.nodes = nodes.filter fun node => !node.cpus.isEmpty :=
  ⟨fun _ _ => parseCpulist_of_parseCpuList, fun _ _ _ hnodes htopology =>
    fromSysfs_nodes htopology hnodes⟩

theorem readers_agree_range : parseCpulist "0-1, 4" = [0, 1, 4] :=
  readers_agree.1 "0-1, 4" [0, 1, 4] (by decide)

end Chalybs
