/-
Bytes that encode a text, and bytes that do not.

Reading bytes as UTF-8 undoes the encoding and nothing else: a text is read from its own bytes, and from
no others.  Both come from one character at a time.  The bytes of a character are read as that character,
whatever follows, and what has been read as a character are its bytes.
-/
import JobWorker.Text.Utf8
import Mathlib.Data.List.Basic

namespace JobWorker.Text.Utf8

variable {bytes rest : List UInt8} {a b b' b'' : UInt8} {lead : Lead} {c : Char} {s : String}

/-- The bytes that encode a text. -/
def encode (s : String) : List UInt8 := s.toUTF8.data.toList

/-- They are the bytes of its characters. -/
theorem encode_eq_flatMap (s : String) : encode s = s.toList.flatMap String.utf8EncodeChar := by
  have hs : s.toUTF8 = s.toList.utf8Encode := by
    rw [String.toUTF8_eq_toByteArray, ← String.toByteArray_ofList, String.ofList_toList]
  rw [encode, hs, List.utf8Encode, List.toList_data_toByteArray]

/-! ### Lead bytes -/

/-- What a lead byte announces, by its number. -/
inductive Announces (a : Nat) : Lead → Prop
  | two : 0xC2 ≤ a → a ≤ 0xDF → Announces a ⟨0x80, 0xBF, 1⟩
  | three : 0xE0 ≤ a → a ≤ 0xEF →
      Announces a ⟨if a = 0xE0 then 0xA0 else 0x80, if a = 0xED then 0x9F else 0xBF, 2⟩
  | four : 0xF0 ≤ a → a ≤ 0xF4 →
      Announces a ⟨if a = 0xF0 then 0x90 else 0x80, if a = 0xF4 then 0x8F else 0xBF, 3⟩

theorem lead?_of_announces (h : Announces a.toNat lead) : lead? a = some lead := by
  simp only [lead?, Bool.and_eq_true, decide_eq_true_eq, UInt8.le_iff_toNat_le, ← UInt8.toNat_inj,
    UInt8.reduceToNat]
  cases h with
  | two h h' => rw [if_pos ⟨h, h'⟩]
  | three h h' => grind
  | four h h' => grind

theorem announces_of_lead? (h : lead? a = some lead) : Announces a.toNat lead := by
  have hunique : ∀ {lead' : Lead}, Announces a.toNat lead' → Announces a.toNat lead := by
    intro lead' h'
    obtain rfl : lead = lead' := Option.some_inj.1 (h.symm.trans (lead?_of_announces h'))
    exact h'
  by_cases htwo : 0xC2 ≤ a.toNat ∧ a.toNat ≤ 0xDF
  · exact hunique (.two htwo.1 htwo.2)
  by_cases hthree : 0xE0 ≤ a.toNat ∧ a.toNat ≤ 0xEF
  · exact hunique (.three hthree.1 hthree.2)
  by_cases hfour : 0xF0 ≤ a.toNat ∧ a.toNat ≤ 0xF4
  · exact hunique (.four hfour.1 hfour.2)
  simp only [lead?, Bool.and_eq_true, decide_eq_true_eq, UInt8.le_iff_toNat_le, ← UInt8.toNat_inj,
    UInt8.reduceToNat] at h
  grind

/-! ### One character -/

theorem isTail_iff : isTail b = true ↔ 0x80 ≤ b.toNat ∧ b.toNat ≤ 0xBF := by
  simp [isTail, UInt8.le_iff_toNat_le]

/-- What is read as one character. -/
inductive Spells : List UInt8 → Char → Prop
  | one {a : UInt8} : a.toNat < 0x80 → Spells [a] (Char.ofNat a.toNat)
  | two {a b : UInt8} {lead : Lead} : lead? a = some lead → lead.following = 1 →
      lead.least.toNat ≤ b.toNat → b.toNat ≤ lead.greatest.toNat →
      Spells [a, b] (Char.ofNat (a.toNat % 0x20 * 0x40 + payload b))
  | three {a b b' : UInt8} {lead : Lead} : lead? a = some lead → lead.following = 2 →
      lead.least.toNat ≤ b.toNat → b.toNat ≤ lead.greatest.toNat → isTail b' = true →
      Spells [a, b, b'] (Char.ofNat ((a.toNat % 0x10 * 0x40 + payload b) * 0x40 + payload b'))
  | four {a b b' b'' : UInt8} {lead : Lead} : lead? a = some lead → lead.following = 3 →
      lead.least.toNat ≤ b.toNat → b.toNat ≤ lead.greatest.toNat → isTail b' = true →
      isTail b'' = true → Spells [a, b, b', b'']
        (Char.ofNat (((a.toNat % 0x08 * 0x40 + payload b) * 0x40 + payload b') * 0x40 + payload b''))

theorem pieces_of_spells (h : Spells bytes c) (rest : List UInt8) :
    pieces (bytes ++ rest) = some c :: pieces rest := by
  have hlong : ∀ {a : UInt8} {lead : Lead}, lead? a = some lead → ¬ a < 0x80 := by
    intro a lead hlead
    have ha : 0x80 ≤ a.toNat := by cases announces_of_lead? hlead <;> omega
    simpa [UInt8.lt_iff_toNat_lt] using ha
  cases h with
  | one ha =>
    rw [List.cons_append, pieces, if_pos (by simpa [UInt8.lt_iff_toNat_lt] using ha)]
    rfl
  | two hlead hfollowing hleast hgreatest =>
    rw [List.cons_append, pieces, if_neg (hlong hlead)]
    simp [hlead, hfollowing, UInt8.le_iff_toNat_le, hleast, hgreatest]
  | three hlead hfollowing hleast hgreatest hb' =>
    rw [List.cons_append, pieces, if_neg (hlong hlead)]
    simp [hlead, hfollowing, UInt8.le_iff_toNat_le, hleast, hgreatest, hb']
  | four hlead hfollowing hleast hgreatest hb' hb'' =>
    rw [List.cons_append, pieces, if_neg (hlong hlead)]
    simp [hlead, hfollowing, UInt8.le_iff_toNat_le, hleast, hgreatest, hb', hb'']

theorem exists_spells_of_pieces {more : List (Option Char)} (h : pieces bytes = some c :: more) :
    ∃ spelling rest, Spells spelling c ∧ bytes = spelling ++ rest ∧ pieces rest = more := by
  unfold pieces at h
  split at h
  · cases h
  next a r =>
  split at h
  · next ha =>
    cases h
    exact ⟨[a], r, .one (by simpa [UInt8.lt_iff_toNat_lt] using ha), rfl, rfl⟩
  split at h
  · cases h
  next lead hlead =>
  split at h
  · cases h
  next b r₂ =>
  split at h
  · cases h
  next hb =>
  simp only [Bool.not_eq_true', Bool.not_eq_false, Bool.and_eq_true, decide_eq_true_eq,
    UInt8.le_iff_toNat_le] at hb
  split at h
  · next hfollowing =>
    cases h
    exact ⟨[a, b], r₂, .two hlead hfollowing hb.1 hb.2, rfl, rfl⟩
  split at h
  · cases h
  next b' r₃ =>
  split at h
  · cases h
  next hb' =>
  split at h
  · next hfollowing =>
    cases h
    exact ⟨[a, b, b'], r₃, .three hlead hfollowing hb.1 hb.2 (by simpa using hb'), rfl, rfl⟩
  split at h
  · cases h
  next b'' r₄ =>
  split at h
  · cases h
  next hb'' =>
  cases h
  have hfollowing : lead.following = 3 := by
    cases announces_of_lead? hlead <;> simp_all
  exact ⟨[a, b, b', b''], r₄, .four hlead hfollowing hb.1 hb.2 (by simpa using hb')
    (by simpa using hb''), rfl, rfl⟩

/-- The bytes of a character, by its number. -/
theorem encodeChar_ofNat {n : Nat} (h : n.isValidChar) : String.utf8EncodeChar (Char.ofNat n) =
    if n ≤ 0x7F then [UInt8.ofNat n]
    else if n ≤ 0x7FF then [UInt8.ofNat (n / 64 % 32 + 192), UInt8.ofNat (n % 64 + 128)]
    else if n ≤ 0xFFFF then
      [UInt8.ofNat (n / 4096 % 16 + 224), UInt8.ofNat (n / 64 % 64 + 128), UInt8.ofNat (n % 64 + 128)]
    else
      [UInt8.ofNat (n / 262144 % 8 + 240), UInt8.ofNat (n / 4096 % 64 + 128),
        UInt8.ofNat (n / 64 % 64 + 128), UInt8.ofNat (n % 64 + 128)] := by
  have hn : (Char.ofNat n).val.toNat = n := by
    rw [Char.ofNat, dif_pos h]
    rfl
  rw [String.utf8EncodeChar, hn]

/-- What is read as a character are its bytes. -/
theorem Spells.eq_encodeChar (h : Spells bytes c) : bytes = String.utf8EncodeChar c := by
  cases h with
  | one ha =>
    rw [encodeChar_ofNat (.inl (by omega)), if_pos (by omega)]
    simp
  | @two a b lead hlead hfollowing hleast hgreatest =>
    cases announces_of_lead? hlead with
    | two ha ha' =>
      simp only [UInt8.reduceToNat] at hleast hgreatest
      rw [payload]
      rw [encodeChar_ofNat (.inl (by omega)), if_neg (by omega), if_pos (by omega)]
      simp only [List.cons.injEq, ← UInt8.toNat_inj, UInt8.toNat_ofNat', and_true]
      omega
    | three => cases hfollowing
    | four => cases hfollowing
  | @three a b b' lead hlead hfollowing hleast hgreatest hb' =>
    rw [isTail_iff] at hb'
    cases announces_of_lead? hlead with
    | two => cases hfollowing
    | three ha ha' =>
      simp only [apply_ite UInt8.toNat, UInt8.reduceToNat] at hleast hgreatest
      have hb : 0x80 ≤ b.toNat ∧ b.toNat ≤ 0xBF ∧ (a.toNat = 0xE0 → 0xA0 ≤ b.toNat) ∧
        (a.toNat = 0xED → b.toNat ≤ 0x9F) := by grind
      simp only [payload]
      rw [encodeChar_ofNat (by omega), if_neg (by omega), if_neg (by omega), if_pos (by omega)]
      simp only [List.cons.injEq, ← UInt8.toNat_inj, UInt8.toNat_ofNat', and_true]
      omega
    | four => cases hfollowing
  | @four a b b' b'' lead hlead hfollowing hleast hgreatest hb' hb'' =>
    rw [isTail_iff] at hb' hb''
    cases announces_of_lead? hlead with
    | two => cases hfollowing
    | three => cases hfollowing
    | four ha ha' =>
      simp only [apply_ite UInt8.toNat, UInt8.reduceToNat] at hleast hgreatest
      have hb : 0x80 ≤ b.toNat ∧ b.toNat ≤ 0xBF ∧ (a.toNat = 0xF0 → 0x90 ≤ b.toNat) ∧
        (a.toNat = 0xF4 → b.toNat ≤ 0x8F) := by grind
      simp only [payload]
      rw [encodeChar_ofNat (by omega), if_neg (by omega), if_neg (by omega), if_neg (by omega)]
      simp only [List.cons.injEq, ← UInt8.toNat_inj, UInt8.toNat_ofNat', and_true]
      omega

theorem toNat_tail (n : Nat) : (UInt8.ofNat (n % 64 + 128)).toNat = n % 64 + 128 := by
  rw [UInt8.toNat_ofNat']
  omega

theorem toNat_head (n : Nat) {k most : Nat} (h : most + k ≤ 256) (hk : 0 < k) :
    (UInt8.ofNat (n % k + most)).toNat = n % k + most := by
  have := Nat.mod_lt n hk
  rw [UInt8.toNat_ofNat']
  omega

/-- A character is read from its bytes. -/
theorem spells_encodeChar (c : Char) : Spells (String.utf8EncodeChar c) c := by
  have hvalid : c.toNat.isValidChar := c.valid
  rw [← Char.ofNat_toNat c]
  generalize c.toNat = n at hvalid
  have hspelled : ∀ {bytes : List UInt8} {m : Nat}, Spells bytes (Char.ofNat m) → m = n →
      Spells bytes (Char.ofNat n) := by
    rintro bytes m h rfl
    exact h
  rw [encodeChar_ofNat hvalid]
  split
  · refine hspelled (.one ?_) ?_ <;> simp <;> omega
  split
  · refine hspelled (.two (lead?_of_announces (.two ?_ ?_)) rfl ?_ ?_) ?_ <;>
      simp only [toNat_head _ (show 192 + 32 ≤ 256 by decide) (by decide), toNat_tail, payload, UInt8.reduceToNat] <;>
      omega
  split
  · refine hspelled (.three (lead?_of_announces (.three ?_ ?_)) rfl ?_ ?_ (isTail_iff.2 ?_)) ?_ <;>
      simp only [toNat_head _ (show 224 + 16 ≤ 256 by decide) (by decide), toNat_tail, payload,
        apply_ite UInt8.toNat, UInt8.reduceToNat] <;>
      first | omega | (split <;> omega)
  · refine hspelled (.four (lead?_of_announces (.four ?_ ?_)) rfl ?_ ?_ (isTail_iff.2 ?_)
        (isTail_iff.2 ?_)) ?_ <;>
      simp only [toNat_head _ (show 240 + 8 ≤ 256 by decide) (by decide), toNat_tail, payload,
        apply_ite UInt8.toNat, UInt8.reduceToNat] <;>
      first | omega | (split <;> omega)

/-! ### Whole texts -/

theorem pieces_eq_nil_iff : pieces bytes = [] ↔ bytes = [] := by
  fun_cases pieces bytes <;> simp

theorem pieces_flatMap (text : List Char) :
    pieces (text.flatMap String.utf8EncodeChar) = text.map some := by
  induction text with
  | nil => rfl
  | cons c text ih => rw [List.flatMap_cons, pieces_of_spells (spells_encodeChar c), ih, List.map_cons]

theorem pieces_encode (s : String) : pieces (encode s) = s.toList.map some := by
  rw [encode_eq_flatMap, pieces_flatMap]

theorem eq_flatMap_of_pieces {text : List Char} (h : pieces bytes = text.map some) :
    bytes = text.flatMap String.utf8EncodeChar := by
  induction text generalizing bytes with
  | nil => exact pieces_eq_nil_iff.1 h
  | cons c text ih =>
    obtain ⟨spelling, rest, hspells, rfl, hrest⟩ := exists_spells_of_pieces h
    rw [List.flatMap_cons, ← hspells.eq_encodeChar, ← ih hrest]

theorem mapM_id_eq_some_iff {α : Type} {xs : List (Option α)} {ys : List α} :
    xs.mapM id = some ys ↔ xs = ys.map some := by
  induction xs generalizing ys with
  | nil => rw [List.mapM_nil, Option.pure_def, Option.some_inj, eq_comm (a := []), eq_comm (a := []),
      List.map_eq_nil_iff]
  | cons x xs ih =>
    cases x with
    | none => cases ys <;> simp [List.mapM_cons]
    | some x =>
      cases ys with
      | nil => simp [List.mapM_cons, Option.bind_eq_some_iff]
      | cons y ys => simp [List.mapM_cons, Option.bind_eq_some_iff, ih, and_comm]

/-- **Bytes are read as a text exactly if they encode it.** -/
theorem text?_eq_some_iff : text? bytes = some s ↔ bytes = encode s := by
  rw [text?, Option.map_eq_some_iff, encode_eq_flatMap]
  simp only [mapM_id_eq_some_iff]
  constructor
  · rintro ⟨text, h, rfl⟩
    rw [String.toList_ofList]
    exact eq_flatMap_of_pieces h
  · rintro rfl
    exact ⟨s.toList, pieces_flatMap s.toList, String.ofList_toList⟩

/-- Bytes that encode a text are read as that text, whatever stands for bytes that do not. -/
theorem lossy_encode (s : String) : lossy (encode s) = s := by
  simp [lossy, decode, pieces_encode, Function.comp_def]

end JobWorker.Text.Utf8
