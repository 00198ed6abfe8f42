/-
Which texts are durations, and how long they last.

A text has three parts, whatever it says: what it is without the blanks around it, the digits that this
begins with, and what stands behind the digits, again without the blanks around it.  The reader looks at
the parts in this order.  The first one that makes no sense is what it reports, and if all of them make
sense they say how long the duration lasts, to the nanosecond.
-/
import JobWorker.Duration.Reading
import JobWorker.Proofs.Text.Stripped

namespace JobWorker.Duration

open Text (Stripped trim)

/-! ### How long a number of units lasts -/

/-- Durations that last equally long are equal. -/
theorem totalNanos_inj {d d' : Duration} (h : d.totalNanos = d'.totalNanos) : d = d' := by
  obtain ⟨secs, nanos⟩ := d
  obtain ⟨secs', nanos'⟩ := d'
  have hnanos := nanos.isLt
  have hnanos' := nanos'.isLt
  simp only [totalNanos, nanosPerSecond] at h hnanos hnanos'
  have hsecs : secs = secs' := UInt64.toNat_inj.1 (by omega)
  have hrest : nanos = nanos' := Fin.ext (by omega)
  rw [hsecs, hrest]

theorem totalNanos_ofMillis (n : UInt64) : (ofMillis n).totalNanos = n.toNat * 1000000 := by
  simp only [totalNanos, ofMillis, nanosPerSecond, UInt64.toNat_div, UInt64.toNat_mod]
  simp only [show (1000 : UInt64).toNat = 1000 from rfl]
  omega

theorem totalNanos_ofSecs (n : UInt64) : (ofSecs n).totalNanos = n.toNat * nanosPerSecond := by
  simp [totalNanos, ofSecs]

/-- A number of milliseconds is not changed. -/
theorem totalNanos_ofUnits_millis {n : Nat} (h : n < UInt64.size) :
    (ofUnits n .millis).totalNanos = n * 1000000 := by
  rw [ofUnits, totalNanos_ofMillis, UInt64.toNat_ofNat_of_lt' h]

/-- A number of longer units is one of seconds, up to the longest one. -/
theorem totalNanos_ofUnits_secs (n count : Nat) :
    (ofUnits n (.secs count)).totalNanos = min (n * count) (UInt64.size - 1) * nanosPerSecond := by
  have hlt : min (n * count) (UInt64.size - 1) < UInt64.size :=
    Nat.lt_of_le_of_lt (Nat.min_le_right _ _) (by decide)
  rw [ofUnits, totalNanos_ofSecs, UInt64.toNat_ofNat_of_lt' hlt]

/-! ### Units -/

/-- How each unit is spelled. -/
inductive Names : TimeUnit → String → Prop
  | milliseconds {spelling : String} :
      spelling ∈ ["ms", "millis", "millisecond", "milliseconds"] → Names .millis spelling
  | seconds {spelling : String} :
      spelling ∈ ["", "s", "sec", "secs", "second", "seconds"] → Names (.secs 1) spelling
  | minutes {spelling : String} :
      spelling ∈ ["m", "min", "mins", "minute", "minutes"] → Names (.secs 60) spelling
  | hours {spelling : String} :
      spelling ∈ ["h", "hr", "hrs", "hour", "hours"] → Names (.secs 3600) spelling
  | days {spelling : String} : spelling ∈ ["d", "day", "days"] → Names (.secs 86400) spelling

/-- What the table lists is how the units are spelled. -/
theorem names_iff {unit : TimeUnit} {spelling : String} :
    Names unit spelling ↔ ∃ names, (unit, names) ∈ spellings ∧ spelling ∈ names := by
  constructor
  · intro h
    cases h with
    | milliseconds h | seconds h | minutes h | hours h | days h =>
      exact ⟨_, by simp [spellings], h⟩
  · rintro ⟨names, hentry, h⟩
    simp only [spellings, List.mem_cons, Prod.mk.injEq, List.not_mem_nil, or_false] at hentry
    rcases hentry with ⟨rfl, rfl⟩ | ⟨rfl, rfl⟩ | ⟨rfl, rfl⟩ | ⟨rfl, rfl⟩ | ⟨rfl, rfl⟩
    · exact .milliseconds h
    · exact .seconds h
    · exact .minutes h
    · exact .hours h
    · exact .days h

/-- No spelling is that of two units. -/
theorem unit?_eq_some_iff {unit : TimeUnit} {spelling : String} :
    unit? spelling = some unit ↔ Names unit spelling := by
  rw [names_iff]
  constructor
  · intro h
    obtain ⟨⟨unit', names⟩, hfind, heq⟩ := Option.map_eq_some_iff.1 h
    have hmem : spelling ∈ names := by simpa using List.find?_some hfind
    cases heq
    exact ⟨names, List.mem_of_find?_eq_some hfind, hmem⟩
  · rintro ⟨names, hentry, hmem⟩
    have hall : ∀ entry ∈ spellings, ∀ name ∈ entry.2, unit? name = some entry.1 := by decide
    exact hall _ hentry _ hmem

theorem unit?_eq_none_iff {spelling : String} :
    unit? spelling = none ↔ ∀ unit, ¬ Names unit spelling := by
  rw [Option.eq_none_iff_forall_not_mem]
  exact forall_congr' fun unit => not_congr unit?_eq_some_iff

/-- Units are spelled in small letters. -/
theorem Names.isLower {unit : TimeUnit} {spelling : String} (h : Names unit spelling) :
    ∀ c ∈ spelling.toList, c.isLower = true := by
  obtain ⟨names, hentry, hmem⟩ := names_iff.1 h
  have hall : ∀ entry ∈ spellings, ∀ name ∈ entry.2, name.toList.all Char.isLower = true := by decide
  exact List.all_eq_true.1 (hall _ hentry _ hmem)

/-! ### Parts -/

/-- The parts of a text that may be a duration. -/
structure Parts where
  /-- The text without the blanks around it. -/
  core : List Char
  /-- The digits that it begins with. -/
  digits : List Char
  /-- What stands behind the digits, without the blanks around it. -/
  unit : List Char
  deriving DecidableEq

namespace Parts

/-- A text has some parts.  As many digits as there are belong to the number. -/
inductive Of : List Char → Parts → Prop
  | split {text digits rest unit : List Char} : Stripped text (digits ++ rest) →
      (∀ c ∈ digits, c.isDigit = true) → (∀ c ∈ rest.head?, c.isDigit = false) →
      Stripped rest unit → Of text ⟨digits ++ rest, digits, unit⟩

/-- The number that the digits denote. -/
def number (p : Parts) : Nat := Decimal.ofDigits p.digits

/-- There are digits, and the number that they denote fits a word. -/
def HasNumber (p : Parts) : Prop := p.digits ≠ [] ∧ p.number < UInt64.size

/-- Behind the digits there is a spelling of a unit. -/
def Counts (p : Parts) (unit : TimeUnit) : Prop := Names unit (String.ofList p.unit)

variable {text : List Char} {p : Parts}

/-- What stands behind the digits is a spelling of one unit at most. -/
theorem Counts.unique {unit unit' : TimeUnit} (h : p.Counts unit) (h' : p.Counts unit') :
    unit = unit' :=
  Option.some.inj ((unit?_eq_some_iff.2 h).symm.trans (unit?_eq_some_iff.2 h'))

/-- The parts of a text are those that the reader looks at. -/
theorem of_iff : Of text p ↔
    p = ⟨trim text, (trim text).takeWhile Char.isDigit, trim ((trim text).dropWhile Char.isDigit)⟩ := by
  constructor
  · rintro ⟨hcore, hdigits, hrest, hunit⟩
    rw [hcore.trim, Text.takeWhile_append_of_head hdigits hrest,
      Text.dropWhile_append_of_head hdigits hrest, hunit.trim]
  · rintro rfl
    have hsplit := List.takeWhile_append_dropWhile (p := Char.isDigit) (l := trim text)
    have hrest : ∀ c ∈ ((trim text).dropWhile Char.isDigit).head?, c.isDigit = false := by
      intro c hc
      have hnot := List.head?_dropWhile_not Char.isDigit (trim text)
      rw [Option.mem_def.1 hc] at hnot
      simpa using hnot
    have hcore : Stripped text
        ((trim text).takeWhile Char.isDigit ++ (trim text).dropWhile Char.isDigit) := by
      rw [hsplit]
      exact Text.stripped_trim text
    have h := Of.split hcore (fun c => List.mem_takeWhile_imp) hrest (Text.stripped_trim _)
    rwa [hsplit] at h

/-- Every text has parts. -/
theorem exists_of (text : List Char) : ∃ p, Of text p := ⟨_, of_iff.2 rfl⟩

theorem Of.isDigit (h : Of text p) : ∀ c ∈ p.digits, c.isDigit = true := by
  obtain ⟨-, hdigits, -, -⟩ := h
  exact hdigits

/-- Where there are digits there is a text. -/
theorem Of.core_ne_nil (h : Of text p) (hdigits : p.digits ≠ []) : p.core ≠ [] := by
  obtain ⟨-, -, -, -⟩ := h
  intro hnil
  exact hdigits (List.append_eq_nil_iff.1 hnil).1

/-! ### What the reader makes of the parts -/

theorem word?_eq_some_iff {digits : List Char} (hdigits : ∀ c ∈ digits, c.isDigit = true) {n : Nat} :
    word? digits = some n ↔ digits ≠ [] ∧ n = Decimal.ofDigits digits ∧ n < UInt64.size := by
  by_cases hnil : digits = []
  · subst hnil
    simp [word?, Decimal.nat?]
  have hnat : Decimal.nat? digits = some (Decimal.ofDigits digits) := by
    rw [Decimal.nat?, if_pos]
    simpa [hnil] using hdigits
  rw [word?, hnat]
  by_cases hlt : Decimal.ofDigits digits < UInt64.size
  · simp only [if_pos hlt, Option.some.injEq, ne_eq, hnil, not_false_eq_true, true_and]
    constructor
    · rintro rfl
      exact ⟨rfl, hlt⟩
    · rintro ⟨rfl, -⟩
      rfl
  · simp only [if_neg hlt, reduceCtorEq, false_iff]
    rintro ⟨-, rfl, h⟩
    exact hlt h

theorem Of.word?_eq_some (h : Of text p) (hnumber : p.HasNumber) : word? p.digits = some p.number :=
  (word?_eq_some_iff h.isDigit).2 ⟨hnumber.1, rfl, hnumber.2⟩

theorem Of.word?_eq_none (h : Of text p) (hnumber : ¬ p.HasNumber) : word? p.digits = none := by
  rw [Option.eq_none_iff_forall_not_mem]
  intro n hn
  obtain ⟨hne, rfl, hlt⟩ := (word?_eq_some_iff h.isDigit).1 hn
  exact hnumber ⟨hne, hlt⟩

theorem Of.trim_eq (h : Of text p) : trim text = p.core := by
  rw [of_iff.1 h]

theorem Of.takeWhile_eq (h : Of text p) : p.core.takeWhile Char.isDigit = p.digits := by
  rw [of_iff.1 h]

theorem Of.trim_dropWhile_eq (h : Of text p) : trim (p.core.dropWhile Char.isDigit) = p.unit := by
  rw [of_iff.1 h]

/-- What is made of the parts: the first that makes no sense is reported. -/
inductive Verdict (p : Parts) : Except ReadError Duration → Prop
  | nothing : p.core = [] → Verdict p (.error .empty)
  | noNumber : p.core ≠ [] → ¬ p.HasNumber →
      Verdict p (.error (.invalidNumber (String.ofList p.core)))
  | noUnit : p.HasNumber → (∀ unit, ¬ p.Counts unit) →
      Verdict p (.error (.unknownSuffix (String.ofList p.unit)))
  | duration {unit : TimeUnit} : p.HasNumber → p.Counts unit →
      Verdict p (.ok (ofUnits p.number unit))

theorem Of.verdict {text : String} (h : Of text.toList p) : Verdict p (read text) := by
  rw [read, h.trim_eq, readTrimmed]
  by_cases hcore : p.core = []
  · rw [if_pos hcore]
    exact .nothing hcore
  rw [if_neg hcore, h.takeWhile_eq, h.trim_dropWhile_eq]
  by_cases hnumber : p.HasNumber
  · rw [h.word?_eq_some hnumber]
    by_cases hunit : ∃ unit, p.Counts unit
    · obtain ⟨unit, hunit⟩ := hunit
      simp only [unit?_eq_some_iff.2 hunit]
      exact .duration hnumber hunit
    · simp only [unit?_eq_none_iff.2 (not_exists.1 hunit)]
      exact .noUnit hnumber (not_exists.1 hunit)
  · rw [h.word?_eq_none hnumber]
    exact .noNumber hcore hnumber

/-- The parts of a text decide. -/
theorem Of.verdict_unique (h : Of text p) {result result' : Except ReadError Duration}
    (hresult : Verdict p result) (hresult' : Verdict p result') : result = result' := by
  cases hresult with
  | nothing hcore =>
    cases hresult' with
    | nothing _ => rfl
    | noNumber hcore' _ => exact absurd hcore hcore'
    | noUnit hnumber _ | duration hnumber _ => exact absurd hcore (h.core_ne_nil hnumber.1)
  | noNumber hcore hnumber =>
    cases hresult' with
    | nothing hcore' => exact absurd hcore' hcore
    | noNumber _ _ => rfl
    | noUnit hnumber' _ | duration hnumber' _ => exact absurd hnumber' hnumber
  | noUnit hnumber hunit =>
    cases hresult' with
    | nothing hcore => exact absurd hcore (h.core_ne_nil hnumber.1)
    | noNumber _ hnumber' => exact absurd hnumber hnumber'
    | noUnit _ _ => rfl
    | duration _ hunit' => exact absurd hunit' (hunit _)
  | duration hnumber hunit =>
    cases hresult' with
    | nothing hcore => exact absurd hcore (h.core_ne_nil hnumber.1)
    | noNumber _ hnumber' => exact absurd hnumber hnumber'
    | noUnit _ hunit' => exact absurd hunit (hunit' _)
    | duration _ hunit' => rw [hunit.unique hunit']

/-- **The reader decides by the parts.** -/
theorem Of.read_eq_iff {text : String} (h : Of text.toList p)
    {result : Except ReadError Duration} : read text = result ↔ Verdict p result := by
  constructor
  · rintro rfl
    exact h.verdict
  · intro hresult
    exact h.verdict_unique h.verdict hresult

theorem not_hasNumber_iff : ¬ p.HasNumber ↔ p.digits = [] ∨ UInt64.size ≤ p.number := by
  rw [HasNumber, not_and_or, not_not, Nat.not_lt]

end Parts

/-! ### Which texts are read as what -/

/--
**Durations.**  Every text has its parts, and they decide what is read:

* nothing is left without the blanks, and then the text is empty;
* something is left, but it begins with no digits or with a number of at least 2^64, and then all that is
  left is reported as no number;
* it begins with a number that fits a word.  With a spelling of milliseconds behind it, it is that
  many milliseconds, and with one of a longer unit that many units, up to the greatest number of
  seconds.  Anything else behind it is reported as no unit, and so is whatever has a character that is no
  small letter.
-/
theorem durations_are_read_exactly (text : String) :
    (∃ p, Parts.Of text.toList p) ∧ ∀ p, Parts.Of text.toList p →
      (read text = .error .empty ↔ p.core = []) ∧
      (∀ shown, read text = .error (.invalidNumber shown) ↔ shown = String.ofList p.core ∧
        p.core ≠ [] ∧ (p.digits = [] ∨ UInt64.size ≤ p.number)) ∧
      (p.digits ≠ [] → p.number < UInt64.size →
        (∀ d, read text = .ok d ↔
          (p.Counts .millis ∧ d.totalNanos = p.number * 1000000) ∨
          ∃ count, p.Counts (.secs count) ∧
            d.totalNanos = min (p.number * count) (UInt64.size - 1) * nanosPerSecond) ∧
        (∀ suffix, read text = .error (.unknownSuffix suffix) ↔
          suffix = String.ofList p.unit ∧ ∀ unit, ¬ p.Counts unit) ∧
        ((∃ c ∈ p.unit, c.isLower = false) →
          read text = .error (.unknownSuffix (String.ofList p.unit)))) := by
  refine ⟨Parts.exists_of _, fun p h => ⟨?_, ?_, fun hdigits hlt => ⟨?_, ?_, ?_⟩⟩⟩
  · rw [h.read_eq_iff]
    constructor
    · intro hverdict
      cases hverdict with
      | nothing hcore => exact hcore
    · exact .nothing
  · intro shown
    rw [h.read_eq_iff, ← Parts.not_hasNumber_iff]
    constructor
    · intro hverdict
      cases hverdict with
      | noNumber hcore hnumber => exact ⟨rfl, hcore, hnumber⟩
    · rintro ⟨rfl, hcore, hnumber⟩
      exact .noNumber hcore hnumber
  · intro d
    rw [h.read_eq_iff]
    constructor
    · intro hverdict
      cases hverdict with
      | @duration unit _ hunit =>
        cases unit with
        | millis => exact .inl ⟨hunit, totalNanos_ofUnits_millis hlt⟩
        | secs count => exact .inr ⟨count, hunit, totalNanos_ofUnits_secs _ _⟩
    · rintro (⟨hunit, hd⟩ | ⟨count, hunit, hd⟩)
      · rw [← totalNanos_ofUnits_millis hlt] at hd
        rw [totalNanos_inj hd]
        exact .duration ⟨hdigits, hlt⟩ hunit
      · rw [← totalNanos_ofUnits_secs] at hd
        rw [totalNanos_inj hd]
        exact .duration ⟨hdigits, hlt⟩ hunit
  · intro suffix
    rw [h.read_eq_iff]
    constructor
    · intro hverdict
      cases hverdict with
      | noUnit _ hunit => exact ⟨rfl, hunit⟩
    · rintro ⟨rfl, hunit⟩
      exact .noUnit ⟨hdigits, hlt⟩ hunit
  · rintro ⟨c, hc, hlower⟩
    rw [h.read_eq_iff]
    refine .noUnit ⟨hdigits, hlt⟩ fun unit hunit => ?_
    have hall := hunit.isLower c (by simpa using hc)
    rw [hlower] at hall
    cases hall

/-- So many days that the number of seconds is the greatest one, with blanks and a leading zero. -/
theorem durations_are_read_exactly_longest :
    ∃ p, Parts.Of "\u2003 0300000000000000000 days\n".toList p ∧ p.Counts (.secs 86400) ∧
      p.number = 300000000000000000 ∧
      ∃ d, read "\u2003 0300000000000000000 days\n" = .ok d ∧
        d.totalNanos = (UInt64.size - 1) * nanosPerSecond := by
  obtain ⟨⟨p, hp⟩, hall⟩ := durations_are_read_exactly "\u2003 0300000000000000000 days\n"
  have hparts := Parts.of_iff.1 hp
  have hcounts : p.Counts (.secs 86400) := by
    rw [hparts]
    exact .days (by decide)
  have hnumber : p.number = 300000000000000000 := by
    rw [hparts]
    decide
  obtain ⟨-, -, hread⟩ := hall p hp
  obtain ⟨hok, -, -⟩ := hread (by rw [hparts]; decide) (by rw [hnumber]; decide)
  refine ⟨p, hp, hcounts, hnumber, ofSecs (.ofNat (UInt64.size - 1)), ?_, by decide⟩
  refine (hok _).2 (.inr ⟨86400, hcounts, ?_⟩)
  rw [hnumber]
  decide

end JobWorker.Duration
