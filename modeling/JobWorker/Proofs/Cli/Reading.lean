/-
What the words behind a subcommand come to.

The words are read from left to right.  A word is refused, or it asks for help, or it is the last, or
reading goes on behind it; `readFlags_cons` says so once and for all.  What is run has therefore been
read to its end, and there all flags are asked for that must be given.  And a value that a flag does
not take is found out, unless help was asked for before it.
-/
import JobWorker.Cli.Syntax
import JobWorker.Proofs.Except

namespace JobWorker.Cli

variable {s : Subcommand} {t : Taken}

/-! ### Word by word -/

/-- Whether a word asks for help. -/
def Word.asksForHelp : Word → Bool
  | .long name none => name = "help"
  | .short ('h' :: _) => true
  | _ => false

/-- What a word can come to, with the words behind it. -/
inductive Upshot (s : Subcommand) (t : Taken) (word : String) (rest : List String) : Prop where
  | refused {e : UsageError} (h : readFlags s t (word :: rest) = .error e)
  | helped (hword : (Word.of word).asksForHelp = true)
      (h : readFlags s t (word :: rest) = (t.settle s).map fun _ => .help (.subcommand s))
  | ended (hrest : rest = []) (h : readFlags s t (word :: rest) = (t.finish s).map (.run s))
  | flagged {f : Flag} {value : Option String} {t' : Taken} (hflag : t.flag s f value = .ok t')
      (h : readFlags s t (word :: rest) = readFlags s t' rest)
  | valued {text : String} {t' : Taken} (hword : Word.of word = .plain text)
      (hplain : t.plain text = .ok t') (h : readFlags s t (word :: rest) = readFlags s t' rest)

theorem readFlags_cons (s : Subcommand) (t : Taken) (word : String) (rest : List String) :
    Upshot s t word rest := by
  cases hword : Word.of word with
  | separator =>
      cases rest with
      | nil => exact .ended rfl (by simp [readFlags, hword])
      | cons next rest => exact .refused (e := .unexpectedArgument next) (by simp [readFlags, hword])
  | long name value =>
      by_cases hname : name = "help"
      · subst hname
        cases value with
        | none => exact .helped (by simp [hword, Word.asksForHelp]) (by simp [readFlags, hword])
        | some value => exact .refused (e := .unexpectedValue value "--help") (by simp [readFlags, hword])
      · cases hflag : s.flag? name with
        | none =>
            exact .refused (e := .unexpectedArgument ("--" ++ name))
              (by simp [readFlags, hword, hname, hflag])
        | some f =>
            cases htaken : t.flag s f value with
            | error e =>
                exact .refused (e := e)
                  (by simp [readFlags, hword, hname, hflag, htaken, bind, Except.bind])
            | ok t' =>
                exact .flagged htaken
                  (by simp [readFlags, hword, hname, hflag, htaken, bind, Except.bind])
  | short letters =>
      match letters with
      | 'h' :: _ => exact .helped (by simp [hword, Word.asksForHelp]) (by simp [readFlags, hword])
      | [] => exact .refused (by simp [readFlags, hword]; rfl)
      | c :: letters =>
          by_cases hc : c = 'h'
          · subst hc
            exact .helped (by simp [hword, Word.asksForHelp]) (by simp [readFlags, hword])
          · exact .refused (e := .unexpectedArgument (String.ofList ['-', c]))
              (by simp [readFlags, hword, hc])
  | plain text =>
      cases htaken : t.plain text with
      | error e => exact .refused (e := e) (by simp [readFlags, hword, htaken, bind, Except.bind])
      | ok t' => exact .valued hword htaken (by simp [readFlags, hword, htaken, bind, Except.bind])

/-! ### Reading to the end -/

/-- What is run was read to its end. -/
theorem finish_of_readFlags_eq_run {s' : Subcommand} {items : List Item} :
    ∀ {words : List String} {t : Taken}, readFlags s t words = .ok (.run s' items) →
      s' = s ∧ ∃ t' : Taken, t'.finish s = .ok items := by
  have hfinish : ∀ {t : Taken}, (t.finish s).map (CommandLine.run s) = .ok (.run s' items) →
      s' = s ∧ ∃ t' : Taken, t'.finish s = .ok items := by
    intro t h
    obtain ⟨items', hitems, hrun⟩ := map_eq_ok_iff.mp h
    cases hrun
    exact ⟨rfl, t, hitems⟩
  intro words
  induction words with
  | nil => intro t h; exact hfinish h
  | cons word rest ih =>
      intro t h
      cases readFlags_cons s t word rest with
      | refused hrefused => rw [hrefused] at h; cases h
      | helped _ hhelped =>
          rw [hhelped] at h
          obtain ⟨_, _, hhelp⟩ := map_eq_ok_iff.mp h
          cases hhelp
      | ended _ hended => exact hfinish (hended ▸ h)
      | flagged _ hflagged => exact ih (hflagged ▸ h)
      | valued _ _ hvalued => exact ih (hvalued ▸ h)

/-- At the end of reading, all flags are there that must be given. -/
theorem flag_mem_of_finish {items : List Item} (h : t.finish s = .ok items) {f : Flag}
    (hf : f ∈ s.required) : ∃ item ∈ items, item.flag = f := by
  obtain ⟨t', -, h⟩ := bind_eq_ok_iff.mp h
  split at h
  · rename_i hnone
    cases h
    have hgiven := List.filter_eq_nil_iff.mp hnone f hf
    simpa using hgiven
  · cases h

/-- **What is run has all flags that must be given.** -/
theorem flag_mem_of_readFlags {s' : Subcommand} {words : List String} {items : List Item}
    (h : readFlags s t words = .ok (.run s' items)) {f : Flag} (hf : f ∈ s.required) :
    ∃ item ∈ items, item.flag = f := by
  obtain ⟨-, t', hfinish⟩ := finish_of_readFlags_eq_run h
  exact flag_mem_of_finish hfinish hf

/-! ### Values that a flag does not take -/

/-- The words that give a value to a flag: one with an equals sign, or two. -/
inductive Gives (f : Flag) (value : String) : List String → Prop
  | joined {word : String} (h : Word.of word = .long f.long (some value)) : Gives f value [word]
  | apart {word : String} (h : Word.of word = .long f.long none) : Gives f value [word, value]

/-- A value that a flag does not take. -/
def Flag.Refuses (f : Flag) (value : String) : Prop := ∃ reason, f.read value = .error reason

theorem Flag.Refuses.valueName? {f : Flag} {value : String} (h : f.Refuses value) :
    ∃ name, f.valueName? = some name := by
  obtain ⟨reason, h⟩ := h
  cases f with
  | autoComplete => cases h
  | _ => exact ⟨_, rfl⟩

theorem Flag.long_injective {f g : Flag} (h : f.long = g.long) : f = g := by
  revert h
  cases f <;> cases g <;> decide

theorem Flag.long_ne_help (f : Flag) : f.long ≠ "help" := by cases f <;> decide

/-- A name is understood as the flag that has it, if at all. -/
theorem Subcommand.flag?_long {s : Subcommand} {f g : Flag} (h : s.flag? f.long = some g) : g = f :=
  Flag.long_injective (by simpa using List.find?_some h)

theorem Word.of_eq_plain {word text : String} (h : Word.of word = .plain text) : text = word := by
  unfold Word.of at h
  split at h
  · cases h
  · cases h
  · cases h
  · cases h
    rfl

/-- A value that is not taken is found out at once when it stands behind an equals sign. -/
theorem Taken.flag_refused (s : Subcommand) (t : Taken) {f : Flag} {value : String}
    (h : f.Refuses value) : ∃ e, t.flag s f (some value) = .error e := by
  obtain ⟨name, hname⟩ := h.valueName?
  obtain ⟨reason, hreason⟩ := h
  unfold Taken.flag
  rw [hname]
  cases t.settle s with
  | error e => exact ⟨e, rfl⟩
  | ok t' =>
      simp only [bind, Except.bind, Taken.add, hreason]
      split
      · exact ⟨_, rfl⟩
      · exact ⟨_, rfl⟩

/-- What cannot be taken in stands in the way of every flag that comes next. -/
theorem Taken.flag_of_settle {e : UsageError} (h : t.settle s = .error e) (f : Flag)
    (value : Option String) : ∃ e, t.flag s f value = .error e := by
  unfold Taken.flag
  cases f.valueName? <;> cases value <;> simp [h, bind, Except.bind]

/-- What cannot be taken in is found out with the words behind it, unless they bring a value. -/
theorem readFlags_of_settle {e : UsageError} (h : t.settle s = .error e) (words : List String)
    (hplain : ∀ text t', t.plain text = .ok t' → ∀ rest, words = text :: rest →
      ∃ e, readFlags s t' rest = .error e) :
    ∃ e, readFlags s t words = .error e := by
  have hfinish : t.finish s = .error e := by simp [Taken.finish, h, bind, Except.bind]
  cases words with
  | nil => exact ⟨e, by simp [readFlags, hfinish, Except.map]⟩
  | cons word rest =>
      cases readFlags_cons s t word rest with
      | refused hrefused => exact ⟨_, hrefused⟩
      | helped _ hhelped => exact ⟨e, by simp [hhelped, h, Except.map]⟩
      | ended _ hended => exact ⟨e, by simp [hended, hfinish, Except.map]⟩
      | @flagged f value _ hflag _ =>
          obtain ⟨e', herror⟩ := t.flag_of_settle h f value
          rw [herror] at hflag
          cases hflag
      | valued hword htaken hvalued =>
          rw [hvalued]
          exact hplain _ _ htaken rest (by rw [Word.of_eq_plain hword])

/-- A value that is not taken is found out in the end when it is a word of its own. -/
theorem readFlags_awaiting {f : Flag} {value : String} (h : f.Refuses value) (items : List Item)
    (rest : List String) :
    ∃ e, readFlags s ⟨items, some (f, none)⟩ (value :: rest) = .error e := by
  obtain ⟨reason, hreason⟩ := h
  have hrefused : ∃ e, Taken.settle s ⟨items, some (f, some value)⟩ = .error e := by
    simp only [Taken.settle, Taken.add, hreason]
    split
    · exact ⟨_, rfl⟩
    · exact ⟨_, rfl⟩
  obtain ⟨e, hrefused⟩ := hrefused
  refine readFlags_of_settle (e := .valueRequired f) rfl (value :: rest) ?_
  intro text t' htaken rest' hwords
  cases htaken
  cases hwords
  -- now the value is there, and there is no room for another
  refine readFlags_of_settle hrefused rest ?_
  intro text t' htaken
  cases htaken

/-- **A value that a flag does not take is a fault of the command line**, wherever it stands, unless
help was asked for before it. -/
theorem readFlags_refuses {f : Flag} {value : String} (h : f.Refuses value) {given : List String}
    (hgiven : Gives f value given) (after : List String) :
    ∀ (before : List String) (t : Taken),
      (∀ word ∈ before, (Word.of word).asksForHelp = false) →
        ∃ e, readFlags s t (before ++ (given ++ after)) = .error e := by
  intro before
  induction before with
  | nil =>
      intro t _
      obtain ⟨name, hname⟩ := h.valueName?
      cases hgiven with
      | joined hword =>
          obtain ⟨e, herror⟩ := t.flag_refused s h
          cases hflag : s.flag? f.long with
          | none => simp [readFlags, hword, f.long_ne_help, hflag]
          | some g =>
              cases Subcommand.flag?_long hflag
              simp [readFlags, hword, f.long_ne_help, hflag, herror, bind, Except.bind]
      | apart hword =>
          cases hflag : s.flag? f.long with
          | none => simp [readFlags, hword, f.long_ne_help, hflag]
          | some g =>
              cases Subcommand.flag?_long hflag
              cases hsettle : t.settle s with
              | error e =>
                  simp [readFlags, hword, f.long_ne_help, hflag, Taken.flag, hname, hsettle, bind,
                    Except.bind]
              | ok t' =>
                  obtain ⟨e, herror⟩ := readFlags_awaiting (s := s) h t'.items after
                  refine ⟨e, ?_⟩
                  simpa [readFlags, hword, f.long_ne_help, hflag, Taken.flag, hname, hsettle, bind,
                    Except.bind, pure, Except.pure] using herror
  | cons word before ih =>
      intro t hbefore
      have hword := hbefore word List.mem_cons_self
      have ih := fun t => ih t fun word hmem => hbefore word (List.mem_cons_of_mem _ hmem)
      rw [List.cons_append]
      cases readFlags_cons s t word (before ++ (given ++ after)) with
      | refused hrefused => exact ⟨_, hrefused⟩
      | helped hhelp _ => rw [hword] at hhelp; cases hhelp
      | ended hrest _ => cases hgiven <;> simp at hrest
      | flagged _ hflagged => rw [hflagged]; exact ih _
      | valued _ _ hvalued => rw [hvalued]; exact ih _

/-! ### Values that a flag takes -/

/-- A flag with its value in one word. -/
def Flag.joined (f : Flag) (value : String) : String := "--" ++ f.long ++ "=" ++ value

theorem Word.of_joined (f : Flag) (value : String) :
    Word.of (f.joined value) = .long f.long (some value) := by
  cases f <;> simp [Flag.joined, Word.of, Flag.long, cutEquals]

/-- Behind a flag that is taken in, reading goes on. -/
theorem readFlags_joined {t' : Taken} {f : Flag} {value : String} (hflag : s.flag? f.long = some f)
    (htaken : t.flag s f (some value) = .ok t') (rest : List String) :
    readFlags s t (f.joined value :: rest) = readFlags s t' rest := by
  simp [readFlags, Word.of_joined, f.long_ne_help, hflag, htaken, bind, Except.bind]

/-- A flag is taken in with a value that it takes, if it is not there yet. -/
theorem Taken.flag_of_read {f : Flag} {name value : String} {item : Item}
    (hname : f.valueName? = some name) (hpending : t.pending = none)
    (hnew : (t.items.any fun item => item.flag = f) = false) (hread : f.read value = .ok item) :
    t.flag s f (some value) = .ok { t with items := t.items ++ [item] } := by
  simp [Taken.flag, hname, Taken.settle, hpending, Taken.add, hnew, hread, bind, Except.bind]

/-- The digits of a number of 32 bits are read as it. -/
theorem Flag.readCount_toDigits (n : UInt32) :
    Flag.readCount (String.ofList (Nat.toDigits 10 n.toNat)) = .ok n := by
  have hlt : n.toNat < 4294967296 := n.toNat_lt
  have hvalue : Decimal.ofDigits (Nat.toDigits 10 n.toNat) = n.toNat := Decimal.ofDigits_toDigits n.toNat
  have hword : Decimal.readWord (Nat.toDigits 10 n.toNat) = .ok (n.toNat : Int) := by
    have hle : Decimal.ofDigits (Nat.toDigits 10 n.toNat) ≤ Decimal.greatestInt64.natAbs := by
      rw [hvalue, Decimal.greatestInt64]
      omega
    rw [Decimal.readWord_of_digits (Decimal.toDigits_ne_nil _) (fun c => Decimal.isDigit_of_mem_toDigits) hle,
      hvalue]
  have hrange : (0 : Int) ≤ n.toNat ∧ (n.toNat : Int) ≤ Decimal.greatestUInt32 := by
    rw [Decimal.greatestUInt32]
    omega
  simp [Flag.readCount, hword, hrange]

end JobWorker.Cli
