/-
What stands at the end of an address stays there.

Reading an address escapes characters, strips white space and carries out dots.  None of this touches
segments of letters, digits and hyphens: such segments at the end of a text are at the end of the address
that it is read as, wherever its path, its query and its fragment begin.  So addresses that are told apart
by what was appended to one text are told apart for good.
-/
import JobWorker.Url
import Mathlib.Data.List.TakeWhile

namespace JobWorker.Url

/-- Whether a character stands for itself wherever it is in an address. -/
def isPlain (c : Char) : Bool := c.isAlphanum || c = '-'

/-- A segment that stands for itself. -/
structure IsSegment (segment : List Char) : Prop where
  nonempty : segment ≠ []
  plain : ∀ c ∈ segment, isPlain c = true

/-- Two segments, each behind a slash. -/
def twoSegments (first last : List Char) : List Char := '/' :: first ++ '/' :: last

variable {first last b text : List Char} {c : Char}

theorem ne_of_isPlain {mark : Char} (hmark : isPlain mark = false) (h : isPlain c = true) : c ≠ mark := by
  rintro rfl
  rw [hmark] at h
  cases h

/-- Plain characters are printable ones of ASCII. -/
theorem bounds_of_isPlain (h : isPlain c = true) : 0x20 < c.toNat ∧ c.toNat < 0x7F := by
  rw [isPlain, Bool.or_eq_true, decide_eq_true_iff] at h
  rcases h with h | rfl
  · have hranges : ('A'.val ≤ c.val ∧ c.val ≤ 'Z'.val) ∨ ('a'.val ≤ c.val ∧ c.val ≤ 'z'.val) ∨
        ('0'.val ≤ c.val ∧ c.val ≤ '9'.val) := by
      rcases Bool.or_eq_true_iff.1 h with h | h
      · rcases Bool.or_eq_true_iff.1 h with h | h
        · exact .inl (of_decide_eq_true h)
        · exact .inr (.inl ((Bool.and_eq_true_iff.1 h).imp of_decide_eq_true of_decide_eq_true))
      · exact .inr (.inr ((Bool.and_eq_true_iff.1 h).imp of_decide_eq_true of_decide_eq_true))
    have hlimits : 'A'.val.toNat = 65 ∧ 'Z'.val.toNat = 90 ∧ 'a'.val.toNat = 97 ∧
        'z'.val.toNat = 122 ∧ '0'.val.toNat = 48 ∧ '9'.val.toNat = 57 := by decide
    simp only [UInt32.le_iff_toNat_le] at hranges
    rw [Char.toNat]
    omega
  · decide

/-- The characters of a text are plain or slashes. -/
def IsPlainPath (text : List Char) : Prop := ∀ c ∈ text, c = '/' ∨ isPlain c = true

/-- No character of a text is plain or a slash. -/
def sparesPlain (marks : List Char) : Bool := marks.all fun mark => mark ≠ '/' && !isPlain mark

theorem isPlainPath_twoSegments (hfirst : IsSegment first) (hlast : IsSegment last) :
    IsPlainPath (twoSegments first last) := by
  intro c hc
  rcases List.mem_append.1 hc with hc | hc
  · exact (List.mem_cons.1 hc).imp_right (hfirst.plain c)
  · exact (List.mem_cons.1 hc).imp_right (hlast.plain c)

namespace IsPlainPath

theorem ne_mark (h : IsPlainPath text) {mark : Char} (hslash : mark ≠ '/')
    (hmark : isPlain mark = false) : ∀ c ∈ text, c ≠ mark := by
  rintro c hc rfl
  rcases h c hc with rfl | hplain
  · exact hslash rfl
  · rw [hmark] at hplain
    cases hplain

theorem not_mark (h : IsPlainPath text) (mark : Char) (hslash : mark ≠ '/')
    (hmark : isPlain mark = false) : ∀ c ∈ text, decide (c = mark) = false := fun c hc =>
  decide_eq_false (h.ne_mark hslash hmark c hc)

theorem bounds (h : IsPlainPath text) : ∀ c ∈ text, 0x20 < c.toNat ∧ c.toNat < 0x7F := by
  intro c hc
  rcases h c hc with rfl | hplain
  · decide
  · exact bounds_of_isPlain hplain

end IsPlainPath

/-! ### Cutting and escaping -/

/-- A text is cut before the plain characters at its end or not at all. -/
theorem cut_append {isMark : Char → Bool} (htail : ∀ c ∈ text, isMark c = false) (b : List Char) :
    cut isMark (b ++ text) = (b ++ text, none) ∨
      ∃ before behind, cut isMark (b ++ text) = (before, some (behind ++ text)) := by
  unfold cut
  have hnot : text.dropWhile (fun c => !isMark c) = [] :=
    List.dropWhile_eq_nil_iff.2 fun c hc => by simp [htail c hc]
  rw [List.dropWhile_append, hnot]
  cases b.dropWhile (fun c => !isMark c) with
  | nil => exact .inl rfl
  | cons m behind => exact .inr ⟨_, behind, rfl⟩

theorem encode_append (reserved b text : List Char) :
    Percent.encode reserved (b ++ text) = Percent.encode reserved b ++ Percent.encode reserved text :=
  List.flatMap_append

/-- Characters that stand for themselves are not escaped. -/
theorem encode_eq_self {reserved : List Char}
    (h : ∀ c ∈ text, Percent.isControl c = false ∧ c ∉ reserved) : Percent.encode reserved text = text := by
  induction text with
  | nil => rfl
  | cons c text ih =>
    obtain ⟨⟨hcontrol, hreserved⟩, htext⟩ := List.forall_mem_cons.1 h
    have hcontains : reserved.contains c = false := by simpa using hreserved
    rw [Percent.encode, List.flatMap_cons, hcontrol, hcontains]
    exact congrArg (c :: ·) (ih htext)

theorem IsPlainPath.encode (h : IsPlainPath text) {reserved : List Char}
    (hreserved : sparesPlain reserved = true) :
    Percent.encode reserved text = text := by
  refine encode_eq_self fun c hc => ⟨?_, fun hmem => ?_⟩
  · obtain ⟨hlow, hhigh⟩ := h.bounds c hc
    simp only [Percent.isControl, Bool.or_eq_false_iff, decide_eq_false_iff_not]
    omega
  · have hspared := List.all_eq_true.1 hreserved c hmem
    simp only [ne_eq, decide_not, Bool.and_eq_true, Bool.not_eq_true', decide_eq_false_iff_not] at hspared
    exact h.ne_mark hspared.1 hspared.2 c hc rfl

theorem IsPlainPath.slashed (h : IsPlainPath text) : slashed text = text :=
  (List.map_congr_left fun c hc => if_neg (h.ne_mark (by decide) (by decide) c hc)).trans (List.map_id _)

/-! ### Paths -/

/-- No plain character becomes a dot or the beginning of an escape in lower case. -/
theorem toLower_ne_of_isPlain (h : isPlain c = true) : c.toLower ≠ '.' ∧ c.toLower ≠ '%' := by
  unfold Char.toLower
  split
  · rename_i hupper
    have hlimits : 'A'.val.toNat = 65 ∧ 'Z'.val.toNat = 90 ∧ ('a'.val - 'A'.val).toNat = 32 ∧
        '.'.val.toNat = 46 ∧ '%'.val.toNat = 37 := by decide
    have hleast := UInt32.le_iff_toNat_le.1 hupper.1
    have hmost := UInt32.le_iff_toNat_le.1 hupper.2
    have hshift : (c.val + ('a'.val - 'A'.val)).toNat = c.val.toNat + 32 := by
      rw [UInt32.toNat_add]
      omega
    constructor
    all_goals
      intro heq
      have hval := congrArg (fun c : Char => c.val.toNat) heq
      simp only [hshift] at hval
      omega
  · exact ⟨ne_of_isPlain (by decide) h, ne_of_isPlain (by decide) h⟩

namespace IsSegment

/-- In lower case a segment is no text with dots or escapes. -/
theorem map_toLower_ne (h : IsSegment first) {dots : List Char} (hdots : '.' ∈ dots ∨ '%' ∈ dots) :
    first.map Char.toLower ≠ dots := by
  rintro rfl
  rcases hdots with hmem | hmem
  · obtain ⟨c, hc, heq⟩ := List.mem_map.1 hmem
    exact (toLower_ne_of_isPlain (h.plain c hc)).1 heq
  · obtain ⟨c, hc, heq⟩ := List.mem_map.1 hmem
    exact (toLower_ne_of_isPlain (h.plain c hc)).2 heq

theorem not_isDot (h : IsSegment first) : Path.isDot first = false := by
  have hdot : first ≠ ['.'] := by
    rintro rfl
    exact absurd (h.plain '.' (by simp)) (by decide)
  simp [Path.isDot, hdot, h.map_toLower_ne]

theorem not_isDoubleDot (h : IsSegment first) : Path.isDoubleDot first = false := by
  simp [Path.isDoubleDot, h.map_toLower_ne]

theorem slash_notMem (h : IsSegment first) : '/' ∉ first := fun hmem =>
  absurd (h.plain '/' hmem) (by decide)

end IsSegment

/-- Segments at the end of a path that stand for themselves are at the end of what it comes to. -/
theorem exists_resolve (hfirst : IsSegment first) (hlast : IsSegment last) (segments : List (List Char)) :
    ∀ above, ∃ front, Path.resolve false above (segments ++ [first, last]) = front ++ [first, last] := by
  induction segments with
  | nil =>
    intro above
    refine ⟨above.reverse, ?_⟩
    simp [Path.resolve, Path.keep, hfirst.not_isDot, hfirst.not_isDoubleDot, hlast.not_isDot,
      hlast.not_isDoubleDot]
  | cons segment segments ih =>
    intro above
    obtain ⟨next, more, hmore⟩ : ∃ next more, segments ++ [first, last] = next :: more :=
      List.exists_cons_of_ne_nil (by simp)
    rw [List.cons_append]
    rw [hmore] at ih ⊢
    unfold Path.resolve
    split
    · exact ih _
    split
    · exact ih _
    · exact ih _

/-- A separator divides the parts before it from those behind it. -/
theorem parts_append (separator : Char) (b text : List Char) :
    Text.parts separator (b ++ separator :: text) = Text.parts separator b ++ Text.parts separator text := by
  induction b with
  | nil => simp [Text.parts]
  | cons c b ih =>
    rw [List.cons_append, Text.parts, Text.parts, ih]
    split
    · rfl
    · obtain ⟨part, more, hparts⟩ := List.exists_cons_of_ne_nil (Text.parts_ne_nil separator b)
      simp [hparts]

theorem parts_of_notMem {separator : Char} {text : List Char} (h : separator ∉ text) :
    Text.parts separator text = [text] := by
  induction text with
  | nil => rfl
  | cons c text ih =>
    obtain ⟨hne, htext⟩ := not_or.1 (fun hor => h (List.mem_cons.2 hor))
    rw [Text.parts, if_neg (Ne.symm hne), ih htext]

theorem parts_twoSegments (hfirst : IsSegment first) (hlast : IsSegment last) (b : List Char) :
    Text.parts '/' (b ++ twoSegments first last) = Text.parts '/' b ++ [first, last] := by
  rw [twoSegments, List.cons_append, parts_append, parts_append, parts_of_notMem hfirst.slash_notMem,
    parts_of_notMem hlast.slash_notMem]
  rfl

/-- Two segments at the end of a path are at the end of its usual form. -/
theorem exists_pathText (hfirst : IsSegment first) (hlast : IsSegment last) {path : List Char}
    {segments : List (List Char)} (h : Text.parts '/' path = segments ++ [first, last]) :
    ∃ front, Path.text false path = front ++ twoSegments first last := by
  obtain ⟨front, hfront⟩ := exists_resolve hfirst hlast segments []
  have hencode : ∀ {segment : List Char}, IsSegment segment →
      Percent.encode Path.reserved segment = segment := fun h =>
    IsPlainPath.encode (fun c hc => .inr (h.plain c hc)) (by decide)
  refine ⟨front.flatMap fun segment => '/' :: Percent.encode Path.reserved segment, ?_⟩
  rw [Path.text, Path.segments, h, hfront]
  simp [hencode hfirst, hencode hlast, twoSegments]

theorem exists_pathBehind (hfirst : IsSegment first) (hlast : IsSegment last) (b : List Char) :
    ∃ front, pathBehind (b ++ twoSegments first last) = front ++ twoSegments first last := by
  cases b with
  | nil =>
    refine @exists_pathText first last hfirst hlast _ [] ?_
    show Text.parts '/' (first ++ '/' :: last) = _
    rw [parts_append, parts_of_notMem hfirst.slash_notMem, parts_of_notMem hlast.slash_notMem]
    rfl
  | cons c b =>
    by_cases hc : c = '/'
    · subst hc
      exact exists_pathText hfirst hlast (parts_twoSegments hfirst hlast b)
    · have hbehind : pathBehind (c :: b ++ twoSegments first last) =
          Path.text false (c :: b ++ twoSegments first last) := by
        rw [List.cons_append, pathBehind]
        · simp
        · rintro _ heq
          exact hc (List.cons.inj heq).1
      rw [hbehind]
      exact exists_pathText hfirst hlast (parts_twoSegments hfirst hlast (c :: b))

/-! ### Reading -/

/-- The path that is read behind an authority. -/
theorem path_of_readAuthority? {readHost? : List Char → Option (List Char)} {usual : Option Nat}
    {authority : Authority} {path : List Char}
    (h : readAuthority? readHost? usual text = some (authority, path)) :
    ∃ behind, path = pathBehind (behind ++ text.dropWhile (· ≠ '/')) := by
  unfold readAuthority? at h
  simp only at h
  split at h
  · cases h
  split at h
  · simp only [Option.bind_eq_bind, Option.bind_eq_some_iff, Option.some.injEq, Prod.mk.injEq] at h
    obtain ⟨host, -, port, -, -, rfl⟩ := h
    exact ⟨_, rfl⟩
  · cases h

/-- What does not end a beginning is not lost with it. -/
theorem exists_dropWhile_append {p : Char → Bool} (htext : text.dropWhile p = text) (b : List Char) :
    ∃ front, (b ++ text).dropWhile p = front ++ text := by
  rw [List.dropWhile_append]
  split
  · exact ⟨[], htext⟩
  · exact ⟨_, rfl⟩

/-- What stands at the end of what is read as a place on the network is at the end of its path, if
something other than slashes stands before it. -/
theorem path_of_readNetwork? {usual : Nat} {authority : Authority} {path : List Char}
    (hfirst : IsSegment first) (hlast : IsSegment last) (hb : ∃ c ∈ b, isPlain c = true)
    (h : readNetwork? usual (b ++ twoSegments first last) = some (authority, path)) :
    ∃ front, path = front ++ twoSegments first last := by
  simp only [readNetwork?, Option.bind_eq_bind, Option.bind_eq_some_iff, Option.some.injEq,
    Prod.mk.injEq, Prod.exists] at h
  obtain ⟨_, path, hread, rfl, rfl⟩ := h
  obtain ⟨behind, rfl⟩ := path_of_readAuthority? hread
  obtain ⟨c, hc, hplain⟩ := hb
  obtain ⟨kept, hkept⟩ : ∃ kept, (slashed (b ++ twoSegments first last)).dropWhile (· = '/') =
      kept ++ twoSegments first last := by
    have hnot : (slashed b).dropWhile (fun c => decide (c = '/')) ≠ [] := by
      intro hnil
      have hslash := List.dropWhile_eq_nil_iff.1 hnil _ (List.mem_map_of_mem hc)
      rw [if_neg (ne_of_isPlain (by decide) hplain)] at hslash
      exact ne_of_isPlain (by decide) hplain (of_decide_eq_true hslash)
    have hself := (isPlainPath_twoSegments hfirst hlast).slashed
    rw [slashed, List.map_append, ← slashed, ← slashed, hself, List.dropWhile_append,
      if_neg (by rwa [List.isEmpty_iff])]
    exact ⟨_, rfl⟩
  obtain ⟨front, hfront⟩ := @exists_dropWhile_append (twoSegments first last)
    (fun c => decide (c ≠ '/')) (by simp [twoSegments]) kept
  obtain ⟨front', hfront'⟩ := exists_pathBehind hfirst hlast (behind ++ front)
  rw [hkept, hfront, ← List.append_assoc, hfront']
  exact ⟨front', if_neg (by simp [twoSegments])⟩

/-- What is appended to a text is at the end of the cleaned text. -/
theorem exists_clean (hne : text ≠ []) (htext : ∀ c ∈ text, 0x20 < c.toNat) (b : List Char) :
    ∃ front, clean (b ++ text) = front ++ text := by
  have houter : ∀ {text : List Char}, text ≠ [] → (∀ c ∈ text, 0x20 < c.toNat) →
      text.dropWhile (fun c => decide (c.toNat ≤ 0x20)) = text := by
    intro text hne htext
    obtain ⟨c, more, rfl⟩ := List.exists_cons_of_ne_nil hne
    have hc := htext c (by simp)
    exact List.dropWhile_cons_of_neg (by simpa using hc)
  have hfilter : text.filter (fun c => c ≠ '\t' && c ≠ '\n' && c ≠ '\r') = text := by
    refine List.filter_eq_self.2 fun c hc => ?_
    have hlow := htext c hc
    have hne : ∀ {mark : Char}, mark.toNat ≤ 0x20 → c ≠ mark := by
      rintro mark hmark rfl
      omega
    simp [@hne '\t' (by decide), @hne '\n' (by decide), @hne '\r' (by decide)]
  obtain ⟨front, hfront⟩ := exists_dropWhile_append (houter hne htext) b
  have hrest : (text.reverse ++ front.reverse).dropWhile (fun c => decide (c.toNat ≤ 0x20)) =
      text.reverse ++ front.reverse := by
    rw [List.dropWhile_append, houter (by simpa using hne) (by simpa using htext)]
    rw [if_neg (by simpa using hne)]
  refine ⟨front.filter fun c => c ≠ '\t' && c ≠ '\n' && c ≠ '\r', ?_⟩
  simp only [clean]
  rw [hfront, List.reverse_append, hrest, List.reverse_append, List.reverse_reverse, List.reverse_reverse,
    List.filter_append, hfilter]

/-- A scheme is cut off before the plain characters at the end of a text. -/
theorem exists_cutScheme {scheme : String} {rest : List Char} (htext : IsPlainPath text)
    (h : cutScheme (b ++ text) = some (scheme, rest)) : ∃ front, rest = front ++ text := by
  unfold cutScheme at h
  rcases cut_append (htext.not_mark ':' (by decide) (by decide)) b with hcut | ⟨before, behind, hcut⟩
  · rw [hcut] at h
    split at h
    · rename_i heq
      exact absurd (congrArg Prod.snd heq) (by simp)
    · cases h
  · rw [hcut] at h
    split at h
    · rename_i heq
      obtain ⟨-, hrest⟩ := Prod.mk.inj heq
      obtain rfl := Option.some.inj hrest
      split at h
      · cases h
        exact ⟨behind, rfl⟩
      · cases h
    · cases h

/-- What follows the authority of an address. -/
def behindAuthority (u : Url) : List Char :=
  u.path ++ (u.query.map ('?' :: ·)).getD [] ++ (u.fragment.map ('#' :: ·)).getD []

/-- How the address of a service of the web is read. -/
theorem web_of_read? {address : String} {u : Url} (h : read? address = some u) (hweb : u.isWeb = true) :
    ∃ scheme rest usual authority path, cutScheme (clean address.toList) = some (scheme, rest) ∧
      readNetwork? usual (cut (· = '?') (cut (· = '#') rest).1).1 = some (authority, path) ∧
      u = { scheme, authority := some authority, path
            query := (cut (· = '?') (cut (· = '#') rest).1).2.map (Percent.encode ownQueryReserved)
            fragment := (cut (· = '#') rest).2.map (Percent.encode fragmentReserved) } := by
  simp only [read?, Option.bind_eq_bind, Option.bind_eq_some_iff, Prod.exists] at h
  obtain ⟨scheme, rest, hscheme, h⟩ := h
  split at h
  · rename_i hfile
    simp only [Option.bind_eq_some_iff, Option.pure_def, Option.some.injEq] at h
    obtain ⟨_, -, rfl⟩ := h
    simp [isWeb, hfile] at hweb
  split at h
  · simp only [Option.bind_eq_some_iff, Option.pure_def, Option.some.injEq, Prod.exists] at h
    obtain ⟨authority, path, hread, rfl⟩ := h
    exact ⟨scheme, rest, _, authority, path, hscheme, hread, rfl⟩
  · rename_i hlookup
    simp only [Option.bind_eq_some_iff, Option.pure_def, Option.some.injEq] at h
    obtain ⟨_, -, rfl⟩ := h
    rw [isWeb, Bool.or_eq_true, decide_eq_true_iff, decide_eq_true_iff] at hweb
    rcases hweb with rfl | rfl <;> exact absurd hlookup (by decide)

/-- **What stands at the end of an address stays there.** -/
theorem exists_behindAuthority {address : String} {u : Url} {base : List Char} (hfirst : IsSegment first)
    (hlast : IsSegment last) (htext : IsPlainPath text)
    (haddress : address.toList = base ++ ('/' :: 'v' :: text ++ twoSegments first last))
    (h : read? address = some u) (hweb : u.isWeb = true) :
    ∃ front, u.behindAuthority = front ++ twoSegments first last := by
  have hplain : IsPlainPath ('/' :: 'v' :: text ++ twoSegments first last) := by
    refine List.forall_mem_append.2 ⟨?_, isPlainPath_twoSegments hfirst hlast⟩
    exact List.forall_mem_cons.2 ⟨.inl rfl, List.forall_mem_cons.2 ⟨.inr (by decide), htext⟩⟩
  have hends : ∀ {reserved b before : List Char}, sparesPlain reserved = true →
      ∃ front, before ++ Percent.encode reserved (b ++ ('/' :: 'v' :: text ++ twoSegments first last)) =
        front ++ twoSegments first last := by
    intro reserved b before hreserved
    rw [encode_append, hplain.encode hreserved]
    exact ⟨before ++ Percent.encode reserved b ++ '/' :: 'v' :: text, by simp⟩
  obtain ⟨scheme, rest, usual, authority, path, hscheme, hread, rfl⟩ := web_of_read? h hweb
  obtain ⟨front, hclean⟩ := exists_clean (by simp) (fun c hc => (hplain.bounds c hc).1) base
  rw [haddress, hclean] at hscheme
  obtain ⟨front, rfl⟩ := exists_cutScheme hplain hscheme
  unfold behindAuthority
  rcases cut_append (hplain.not_mark '#' (by decide) (by decide)) front with hcut | ⟨before, behind, hcut⟩
  · rw [hcut] at hread ⊢
    rcases cut_append (hplain.not_mark '?' (by decide) (by decide)) front with hcut | ⟨before, behind, hcut⟩
    · rw [hcut] at hread ⊢
      rw [← List.append_assoc] at hread
      obtain ⟨front, rfl⟩ := path_of_readNetwork? hfirst hlast ⟨'v', by simp, by decide⟩ hread
      exact ⟨front, by simp⟩
    · rw [hcut]
      obtain ⟨front, hfront⟩ := @hends ownQueryReserved behind (path ++ ['?']) (by decide)
      exact ⟨front, by simpa using hfront⟩
  · rw [hcut]
    obtain ⟨front, hfront⟩ := @hends fragmentReserved behind
      (path ++ (((cut (· = '?') before).2.map (Percent.encode ownQueryReserved)).map ('?' :: ·)).getD [] ++
        ['#']) (by decide)
    exact ⟨front, by simpa using hfront⟩

theorem behindAuthority_withoutLogin (u : Url) : u.withoutLogin.behindAuthority = u.behindAuthority := by
  unfold withoutLogin
  split <;> rfl

theorem isWeb_withoutLogin (u : Url) : u.withoutLogin.isWeb = u.isWeb := by
  unfold withoutLogin
  split <;> rfl

theorem text_eq (u : Url) : ∃ front, u.text.toList = front ++ u.behindAuthority := by
  refine ⟨u.scheme.toList ++ ':' :: (u.authority.map Authority.text).getD [], ?_⟩
  simp [text, behindAuthority]

/-- Texts that end in the same two segments have the same segments there. -/
theorem twoSegments_inj {first' last' a a' : List Char} (hfirst : IsSegment first) (hlast : IsSegment last)
    (hfirst' : IsSegment first') (hlast' : IsSegment last')
    (h : a ++ twoSegments first last = a' ++ twoSegments first' last') : first = first' ∧ last = last' := by
  have hparts := congrArg (Text.parts '/') h
  rw [parts_twoSegments hfirst hlast, parts_twoSegments hfirst' hlast'] at hparts
  simpa using (List.append_inj' hparts rfl).2

end JobWorker.Url
