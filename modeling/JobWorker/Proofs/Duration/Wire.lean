/-
How durations compare on the wire.

A lease and the time for which a gateway may hold a request are numbers of whole milliseconds there,
in words of 64 bits, and what does not fit into the word is cut off.  So a longer duration is one that
is at least as long on the wire only as far as the word reaches: 2^64 milliseconds for a lease, and
half of that for the other one, which has a sign.  Beyond that some shorter duration is longer on the
wire, unless the word happens to be the greatest there is.

Durations that are read from a text do not get shorter in this way, for a number of seconds that is too
large becomes the greatest one.
-/
import JobWorker.Proofs.Duration.Reading
import JobWorker.Proofs.Rest.Encoding
import JobWorker.Proofs.Settings.Lease

namespace JobWorker

open Json Rest

namespace Duration

variable {a b d : Duration}

theorem millis_le_millis (h : a.totalNanos ≤ b.totalNanos) : a.millis ≤ b.millis := by
  rw [millis_eq, millis_eq]
  exact Nat.div_le_div_right h

/-- Whole milliseconds that have passed are no longer than the duration. -/
theorem totalNanos_ofMillis_le {n : Nat} (hn : n < UInt64.size) (h : n ≤ d.millis) :
    (ofMillis (UInt64.ofNat n)).totalNanos ≤ d.totalNanos := by
  rw [totalNanos_ofMillis, UInt64.toNat_ofNat_of_lt' hn]
  rw [millis_eq] at h
  omega

/-! ### Words that hold milliseconds -/

/-- A word that holds the milliseconds below a limit, and never anything beyond it. -/
structure Holds (word : Duration → Int) (limit : Nat) : Prop where
  eq_millis : ∀ d : Duration, d.millis < limit → word d = d.millis
  lt_limit : ∀ d, word d < limit

/-- **The order is kept below the limit.**  No shorter duration has a greater word than one below the
limit; of the others, that is true only where the word is the greatest. -/
theorem Holds.forall_le_iff {word : Duration → Int} {limit : Nat} (h : Holds word limit)
    (hpos : 0 < limit) (hsize : limit ≤ UInt64.size) :
    (∀ a : Duration, a.totalNanos ≤ b.totalNanos → word a ≤ word b) ↔
      b.millis < limit ∨ word b = limit - 1 := by
  constructor
  · intro hall
    by_cases hb : b.millis < limit
    · exact .inl hb
    -- The longest duration below the limit is shorter than this one, and has the greatest word.
    have hlast : limit - 1 < UInt64.size := by omega
    have hmillis : (ofMillis (UInt64.ofNat (limit - 1))).millis = limit - 1 := by
      rw [millis_ofMillis, UInt64.toNat_ofNat_of_lt' hlast]
    have hword := h.eq_millis (ofMillis (UInt64.ofNat (limit - 1))) (by omega)
    have hle := hall _ (totalNanos_ofMillis_le hlast (by omega))
    have hlt := h.lt_limit b
    exact .inr (by omega)
  · rintro (hb | hb) a hle
    · have hmillis := millis_le_millis hle
      rw [h.eq_millis b hb, h.eq_millis a (by omega)]
      exact_mod_cast hmillis
    · have hlt := h.lt_limit a
      omega

theorem holds_millisWord : Holds (fun d => (d.millisWord.toNat : Int)) UInt64.size where
  eq_millis d hd := by rw [millisWord, UInt64.toNat_ofNat_of_lt' hd]
  lt_limit d := by exact_mod_cast d.millisWord.toNat_lt

theorem toInt_signedMillisWord (d : Duration) :
    d.signedMillisWord.toInt = (d.millis : Int).bmod (2 ^ 64) := by
  rw [signedMillisWord, Int64.toInt_ofInt]
  rfl

theorem holds_signedMillisWord : Holds (fun d => d.signedMillisWord.toInt) (2 ^ 63) where
  eq_millis d hd := by
    rw [toInt_signedMillisWord]
    exact Int.bmod_eq_of_le (by omega) (by omega)
  lt_limit d := by exact_mod_cast d.signedMillisWord.toInt_lt

theorem forall_millisWord_le_iff :
    (∀ a : Duration, a.totalNanos ≤ b.totalNanos → a.millisWord ≤ b.millisWord) ↔
      b.millis < 2 ^ 64 ∨ b.millisWord.toNat = 2 ^ 64 - 1 := by
  have hwords : (∀ a : Duration, a.totalNanos ≤ b.totalNanos → a.millisWord ≤ b.millisWord) ↔
      ∀ a : Duration, a.totalNanos ≤ b.totalNanos → (a.millisWord.toNat : Int) ≤ b.millisWord.toNat :=
    forall₂_congr fun a _ => UInt64.le_iff_toNat_le.trans Int.ofNat_le.symm
  rw [hwords, holds_millisWord.forall_le_iff (by decide) (by decide)]
  have hsize : UInt64.size = 2 ^ 64 := rfl
  omega

theorem forall_signedMillisWord_le_iff :
    (∀ a : Duration, a.totalNanos ≤ b.totalNanos → a.signedMillisWord ≤ b.signedMillisWord) ↔
      b.millis < 2 ^ 63 ∨ b.signedMillisWord.toInt = 2 ^ 63 - 1 := by
  have hwords : (∀ a : Duration, a.totalNanos ≤ b.totalNanos → a.signedMillisWord ≤ b.signedMillisWord) ↔
      ∀ a : Duration, a.totalNanos ≤ b.totalNanos → a.signedMillisWord.toInt ≤ b.signedMillisWord.toInt :=
    forall₂_congr fun a _ => Int64.le_iff_toInt_le
  rw [hwords, holds_signedMillisWord.forall_le_iff (by decide) (by decide)]
  norm_num

/-- The sign is the highest bit. -/
theorem signedMillisWord_nonneg_iff : 0 ≤ d.signedMillisWord ↔ d.millis % 2 ^ 64 < 2 ^ 63 := by
  rw [Int64.le_iff_toInt_le, toInt_signedMillisWord, Int.bmod, Int64.toInt_zero]
  split <;> omega

/-! ### Durations that are read -/

/-- More of a unit last no less. -/
theorem ofUnits_le_ofUnits {n m : Nat} (unit : TimeUnit) (hm : m < UInt64.size) (h : n ≤ m) :
    (ofUnits n unit).totalNanos ≤ (ofUnits m unit).totalNanos := by
  cases unit with
  | millis =>
    rw [totalNanos_ofUnits_millis (Nat.lt_of_le_of_lt h hm), totalNanos_ofUnits_millis hm]
    exact Nat.mul_le_mul_right _ h
  | secs count =>
    have hcount : n * count ≤ m * count := Nat.mul_le_mul_right count h
    rw [totalNanos_ofUnits_secs, totalNanos_ofUnits_secs]
    exact Nat.mul_le_mul_right _ (min_le_min_right _ hcount)

/-- A text with a greater number of a unit is read as no shorter a duration. -/
theorem Parts.Of.exists_read_le {text text' : String} {p p' : Parts} {unit : TimeUnit}
    (h : Of text.toList p) (h' : Of text'.toList p') (hnumber : p.HasNumber) (hnumber' : p'.HasNumber)
    (hunit : p.Counts unit) (hunit' : p'.Counts unit) (hle : p.number ≤ p'.number) :
    ∃ d d', read text = .ok d ∧ read text' = .ok d' ∧ d.totalNanos ≤ d'.totalNanos :=
  ⟨_, _, h.read_eq_iff.2 (.duration hnumber hunit), h'.read_eq_iff.2 (.duration hnumber' hunit'),
    ofUnits_le_ofUnits unit hnumber'.2 hle⟩

end Duration

/-! ### What is sent -/

/-- A request for jobs says how long the lease and the wait may be, each in its word. -/
theorem says_words {e : Endpoint} {jobType worker : String} {timeout wait : Duration} {maxJobs : UInt32}
    {p : Post} (h : (e.withLongPolling wait).activation
      ((ActivateRequest.lease jobType worker timeout).withMaxJobs maxJobs) = .ok p) :
    Says p.body.toList
      [("type", .string jobType), ("worker", .string worker),
       ("timeout", .int (timeout.millis % 2 ^ 64 : Nat)), ("maxJobsToActivate", .int maxJobs.toNat),
       ("requestTimeout", .int ((wait.millis : Int).bmod (2 ^ 64)))] := by
  have hsays := (Endpoint.activation_sends _).body h
  have hwait : (e.withLongPolling wait).requestTimeout.toInt = (wait.millis : Int).bmod (2 ^ 64) :=
    wait.toInt_signedMillisWord
  have htimeout : timeout.millisWord.toNat = timeout.millis % 2 ^ 64 := UInt64.toNat_ofNat'
  rw [hwait] at hsays
  rw [← htimeout]
  exact hsays

/-- What is known of the words in which a lease and a wait are sent. -/
structure WireWords (e : Endpoint) (jobType worker : String) (timeout wait : Duration) : Prop where
  /-- A lease is its whole milliseconds, as far as the word reaches. -/
  lease_eq : (ActivateRequest.lease jobType worker timeout).timeoutMs.toNat = timeout.millis % 2 ^ 64
  /-- It is at least as long as every shorter one exactly if it is below the limit of the word, or the
  word is the greatest. -/
  lease_order : (∀ a : Duration, a.totalNanos ≤ timeout.totalNanos →
      (ActivateRequest.lease jobType worker a).timeoutMs ≤
        (ActivateRequest.lease jobType worker timeout).timeoutMs) ↔
    timeout.millis < 2 ^ 64 ∨
      (ActivateRequest.lease jobType worker timeout).timeoutMs.toNat = 2 ^ 64 - 1
  /-- The time for which a request may be held open is a number with a sign. -/
  wait_eq : (e.withLongPolling wait).requestTimeout.toInt = (wait.millis : Int).bmod (2 ^ 64)
  /-- It is not negative exactly if the highest bit is not set. -/
  wait_sign : 0 ≤ (e.withLongPolling wait).requestTimeout ↔ wait.millis % 2 ^ 64 < 2 ^ 63
  /-- It has the order of a lease, with half the limit. -/
  wait_order : (∀ a : Duration, a.totalNanos ≤ wait.totalNanos →
      (e.withLongPolling a).requestTimeout ≤ (e.withLongPolling wait).requestTimeout) ↔
    wait.millis < 2 ^ 63 ∨ (e.withLongPolling wait).requestTimeout.toInt = 2 ^ 63 - 1
  /-- These words are what is sent. -/
  sent : ∀ (maxJobs : UInt32) (p : Post),
    (e.withLongPolling wait).activation
        ((ActivateRequest.lease jobType worker timeout).withMaxJobs maxJobs) = .ok p →
      Says p.body.toList
        [("type", .string jobType), ("worker", .string worker),
         ("timeout", .int (timeout.millis % 2 ^ 64 : Nat)), ("maxJobsToActivate", .int maxJobs.toNat),
         ("requestTimeout", .int ((wait.millis : Int).bmod (2 ^ 64)))]
  /-- Whatever becomes of durations in their words, more of a unit are read as no shorter a duration. -/
  read_order : ∀ {text text' : String} {p p' : Duration.Parts} {unit : Duration.TimeUnit},
    Duration.Parts.Of text.toList p → Duration.Parts.Of text'.toList p' → p.HasNumber → p'.HasNumber →
    p.Counts unit → p'.Counts unit → p.number ≤ p'.number →
    ∃ d d', Duration.read text = .ok d ∧ Duration.read text' = .ok d' ∧
      d.totalNanos ≤ d'.totalNanos

/-- **Longer durations on the wire** are longer as far as the words reach, and no further. -/
theorem durations_compare_on_the_wire (e : Endpoint) (jobType worker : String)
    (timeout wait : Duration) : WireWords e jobType worker timeout wait where
  lease_eq := UInt64.toNat_ofNat'
  lease_order := Duration.forall_millisWord_le_iff
  wait_eq := wait.toInt_signedMillisWord
  wait_sign := Duration.signedMillisWord_nonneg_iff
  wait_order := Duration.forall_signedMillisWord_le_iff
  sent _ _ := says_words
  read_order := Duration.Parts.Of.exists_read_le

/-- Of 2^64 milliseconds. -/
def pastWord : Duration := ⟨18446744073709551, ⟨616000000, by decide⟩⟩

/-- Of 2^63 milliseconds. -/
def pastSignedWord : Duration := ⟨9223372036854775, ⟨808000000, by decide⟩⟩

/-- A day is leased for no less than anything shorter, and 2^64 milliseconds are. -/
theorem durations_compare_on_the_wire_past :
    (∀ a : Duration, a.totalNanos ≤ (Duration.ofSecs 86400).totalNanos →
      (ActivateRequest.lease "email" "w" a).timeoutMs ≤ 86400000) ∧
    ∃ a : Duration, a.totalNanos ≤ pastWord.totalNanos ∧
      0 < (ActivateRequest.lease "email" "w" a).timeoutMs := by
  have hday := (durations_compare_on_the_wire (Endpoint.ofAddress "") "email" "w"
    (Duration.ofSecs 86400) pastSignedWord).lease_order.2 (.inl (by decide))
  have hpast : ¬ ∀ a : Duration, a.totalNanos ≤ pastWord.totalNanos →
      (ActivateRequest.lease "email" "w" a).timeoutMs ≤
        (ActivateRequest.lease "email" "w" pastWord).timeoutMs := by
    have hwords := durations_compare_on_the_wire (Endpoint.ofAddress "") "email" "w" pastWord pastSignedWord
    rw [hwords.lease_order]
    decide
  push Not at hpast
  obtain ⟨a, hle, hlt⟩ := hpast
  exact ⟨hday, a, hle, UInt64.not_le.1 hlt⟩

/-- Longer durations do become shorter: 2^64 milliseconds are leased for no time at all, and with 2^63
milliseconds the time for which requests may be held open is negative. -/
theorem longer_become_shorter :
    ¬ (∀ (jobType worker : String) (a b : Duration), a.totalNanos ≤ b.totalNanos →
        (ActivateRequest.lease jobType worker a).timeoutMs ≤
          (ActivateRequest.lease jobType worker b).timeoutMs) ∧
    ¬ (∀ (e : Endpoint) (a : Duration), 0 ≤ (e.withLongPolling a).requestTimeout) ∧
    ¬ (∀ (e : Endpoint) (a b : Duration), a.totalNanos ≤ b.totalNanos →
        (e.withLongPolling a).requestTimeout ≤ (e.withLongPolling b).requestTimeout) := by
  refine ⟨fun h => ?_, fun h => ?_, fun h => ?_⟩
  · exact absurd (h "email" "w" (Duration.ofSecs 1) pastWord (by decide)) (by decide)
  · exact absurd (h (Endpoint.ofAddress "") pastSignedWord) (by decide)
  · exact absurd (h (Endpoint.ofAddress "") (Duration.ofSecs 1) pastSignedWord (by decide)) (by decide)

end JobWorker
