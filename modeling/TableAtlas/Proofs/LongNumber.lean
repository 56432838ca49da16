import TableAtlas.Proofs.TomlExtent

/-!
# Whole numbers that are too long

Whole numbers of more than 4300 decimal digits are not read. The reader goes through the text from
its front to its end, so a number that it finds too long is one that stands in the text.
-/

namespace TableAtlas.Toml

open Text Config

variable {s t : List Char}

/-- Whether a run of `n` decimal digits, more than are read, stands in a text, with or without
underscores between them. -/
def HasLongNumber (n : Nat) (s : List Char) : Prop :=
  maxDecimalDigits < n ∧ ∃ w, w <:+: s ∧ (∀ c ∈ w, c.isDigit = true ∨ c = '_') ∧
    (w.filter Char.isDigit).length = n

section LongNumbers

variable {n : Nat}

theorem HasLongNumber.mono (h : HasLongNumber n s) (hst : s <:+: t) : HasLongNumber n t := by
  obtain ⟨hn, w, hw, hrun⟩ := h
  exact ⟨hn, w, hw.trans hst, hrun⟩

theorem exists_moreDigits (s : List Char) :
    ∃ w, w ++ (moreDigits Char.isDigit s).2 = s ∧ (∀ c ∈ w, c.isDigit = true ∨ c = '_') ∧
      w.filter Char.isDigit = (moreDigits Char.isDigit s).1 := by
  fun_induction moreDigits Char.isDigit s with
  | case1 => exact ⟨[], by simp⟩
  | case2 c hc => exact ⟨[c], by simp [hc]⟩
  | case3 c hc => exact ⟨[], by simp⟩
  | case4 c d cs hc r ih =>
    obtain ⟨w, hw, hrun, hdigits⟩ := ih
    refine ⟨c :: w, by simp [r, hw], ?_, by simp [r, hc, hdigits]⟩
    rw [List.forall_mem_cons]
    exact ⟨.inl hc, hrun⟩
  | case5 c d cs hc hd r ih =>
    obtain ⟨w, hw, hrun, hdigits⟩ := ih
    obtain ⟨hunderscore, hdigit⟩ : c = '_' ∧ d.isDigit = true := by simpa using hd
    refine ⟨c :: d :: w, by simp [r, hw], ?_, by simp [r, hc, hdigit, hdigits]⟩
    rw [List.forall_mem_cons, List.forall_mem_cons]
    exact ⟨.inr hunderscore, .inl hdigit, hrun⟩
  | case6 c d cs hc hd => exact ⟨[], by simp⟩

theorem exists_digitRun {r : List Char × List Char} (h : digitRun? Char.isDigit s = some r) :
    ∃ w, w ++ r.2 = s ∧ (∀ c ∈ w, c.isDigit = true ∨ c = '_') ∧
      w.filter Char.isDigit = r.1 := by
  unfold digitRun? at h
  split at h
  case h_1 => cases h
  case h_2 c cs =>
    split_ifs at h with hc
    obtain ⟨w, hw, hrun, hdigits⟩ := exists_moreDigits cs
    rw [← Option.some.inj h]
    refine ⟨c :: w, by simp [hw], ?_, by simp [hc, hdigits]⟩
    rw [List.forall_mem_cons]
    exact ⟨.inl hc, hrun⟩

theorem hasLongNumber_of_wholePart? {r : List Char × List Char} (h : wholePart? s = some r)
    (hlong : maxDecimalDigits < r.1.length) : HasLongNumber r.1.length s := by
  unfold wholePart? at h
  split at h
  case h_1 cs =>
    rw [← Option.some.inj h] at hlong
    have hone : ¬ maxDecimalDigits < ['0'].length := by decide
    exact absurd hlong hone
  case h_2 =>
    obtain ⟨w, hw, hrun, hdigits⟩ := exists_digitRun h
    exact ⟨hlong, w, ⟨[], r.2, by simp [hw]⟩, hrun, by rw [hdigits]⟩

end LongNumbers

/-! ## Readers -/

/-- What a reader may make of a text: it stops within the text, and a number that it finds too
long is one of the text. -/
def StaysWithin {α : Type} (s : List Char) : Except Fault (α × List Char) → Prop
  | .ok r => r.2 <:+ s
  | .error .malformed => True
  | .error (.integerTooLong n) => HasLongNumber n s

namespace StaysWithin

variable {α β : Type} {e : Except Fault (α × List Char)}

theorem mono (h : StaysWithin s e) (hst : s <:+ t) : StaysWithin t e := by
  match e, h with
  | .ok _, h => exact h.trans hst
  | .error .malformed, _ => trivial
  | .error (.integerTooLong _), h => exact HasLongNumber.mono h hst.isInfix

theorem bind {f : α × List Char → Except Fault (β × List Char)} (h : StaysWithin s e)
    (hf : ∀ r, r.2 <:+ s → StaysWithin s (f r)) : StaysWithin s (e >>= f) := by
  match e, h with
  | .ok r, h => exact hf r h
  | .error .malformed, _ => trivial
  | .error (.integerTooLong _), h => exact h

theorem orMalformed {o : Option (α × List Char)} (h : ∀ r, o = some r → r.2 <:+ s) :
    StaysWithin s (orMalformed o) := by
  cases o with
  | none => trivial
  | some r => exact h r rfl

theorem orMalformed_bind {o : Option β} {f : β → Except Fault (α × List Char)}
    (h : ∀ b, o = some b → StaysWithin s (f b)) :
    StaysWithin s (Toml.orMalformed o >>= f) := by
  cases o with
  | none => trivial
  | some b => exact h b rfl

end StaysWithin

theorem staysWithin_decimalNumber? {e : Except Fault (Value × List Char)}
    (h : decimalNumber? s = some e) : StaysWithin s e := by
  simp only [decimalNumber?, Option.bind_eq_bind, Option.bind_eq_some_iff] at h
  obtain ⟨⟨whole, rest⟩, hwhole, h⟩ := h
  have hsign := signAndRest_suffix s
  have hrest := (wholePart?_suffix hwhole).trans hsign
  split at h
  case h_1 r hreal =>
    rw [← Option.some.inj h]
    exact (realNumber?_suffix hreal).trans hrest
  case h_2 =>
    by_cases hlong : whole.length > maxDecimalDigits
    · rw [if_pos hlong] at h
      rw [← Option.some.inj h]
      exact (hasLongNumber_of_wholePart? hwhole hlong).mono hsign.isInfix
    · rw [if_neg hlong] at h
      rw [← Option.some.inj h]
      exact hrest

theorem staysWithin_scalar (s : List Char) : StaysWithin s (scalar s) := by
  unfold scalar
  split
  case h_1 r hflag => exact flag?_suffix hflag
  case h_2 =>
    split
    case h_1 d rest hdate =>
      split_ifs
      · exact (dateAndTime_suffix d rest).trans (date?_suffix hdate)
      · trivial
    case h_2 =>
      split
      case h_1 t rest htime => exact time?_suffix htime
      case h_2 =>
        split
        case h_1 n rest hradix => exact radixNumber?_suffix hradix
        case h_2 =>
          split
          case h_1 r hdecimal => exact staysWithin_decimalNumber? hdecimal
          case h_2 => exact .orMalformed fun r => specialNumber?_suffix

section Compound

variable {item : Reader Value}

theorem staysWithin_arrayItems (hitem : ∀ s, StaysWithin s (item s)) (done : List Value)
    (s : List Char) : StaysWithin s (arrayItems item done s) := by
  induction done, s using arrayItems.induct with
  | case1 done rest =>
    rw [arrayItems.eq_def]
    exact List.suffix_cons _ _
  | case2 done s hs ih =>
    rw [arrayItems]
    · refine (hitem s).bind ?_
      rintro ⟨v, rest⟩ hrest
      refine .orMalformed_bind fun u hu => ?_
      have hsuffix := (skipFiller?_suffix hu).trans hrest
      -- behind an item stands the end of the array or a comma before the next item
      split
      case h_1 rest' => exact (List.suffix_cons _ _).trans hsuffix
      case h_2 rest' =>
        refine .orMalformed_bind fun more hmore => ?_
        split_ifs with hlength
        · exact (ih v more hlength).mono
            ((skipFiller?_suffix hmore).trans ((List.suffix_cons _ _).trans hsuffix))
        · trivial
      case h_3 => trivial
    · exact hs

theorem staysWithin_keyAndValue (hitem : ∀ s, StaysWithin s (item s)) (s : List Char) :
    StaysWithin s (keyAndValue item s) := by
  refine .orMalformed_bind fun r hkey => .orMalformed_bind fun u hu => ?_
  have hsuffix : skipBlanks u <:+ s :=
    (skipBlanks_suffix u).trans ((char?_suffix hu).trans (key?_suffix hkey))
  refine ((hitem (skipBlanks u)).mono hsuffix).bind fun q hq => ?_
  exact hq

theorem staysWithin_inlineEntries (hitem : ∀ s, StaysWithin s (item s)) (t : InlineTable)
    (s : List Char) : StaysWithin s (inlineEntries item t s) := by
  induction t, s using inlineEntries.induct with
  | case1 t s ih =>
    rw [inlineEntries]
    refine (staysWithin_keyAndValue hitem s).bind ?_
    rintro ⟨⟨key, v⟩, rest⟩ hrest
    refine .orMalformed_bind fun t' _ => ?_
    have hsuffix : skipBlanks rest <:+ s := (skipBlanks_suffix rest).trans hrest
    split
    case h_1 rest' hclose =>
      exact (List.suffix_cons _ _).trans (hclose ▸ hsuffix)
    case h_2 rest' hcomma =>
      split_ifs with hlength
      · exact (ih t' rest' hlength).mono
          ((skipBlanks_suffix rest').trans ((List.suffix_cons _ _).trans (hcomma ▸ hsuffix)))
      · trivial
    case h_3 => trivial

theorem staysWithin_value (depth : Nat) (s : List Char) : StaysWithin s (value depth s) := by
  induction depth generalizing s with
  | zero => trivial
  | succ depth ih =>
    unfold value
    split
    case h_1 cs =>
      refine .orMalformed_bind fun u hu => ?_
      exact (staysWithin_arrayItems ih [] u).mono
        ((skipFiller?_suffix hu).trans (List.suffix_cons _ _))
    case h_2 cs =>
      have hskip : skipBlanks cs <:+ '\x7b' :: cs :=
        (skipBlanks_suffix cs).trans (List.suffix_cons _ _)
      split
      case h_1 rest hclose => exact (List.suffix_cons _ _).trans (hclose ▸ hskip)
      case h_2 => exact (staysWithin_inlineEntries ih _ _).mono hskip
    case h_3 c cs _ _ =>
      split_ifs
      · refine .orMalformed fun r h => ?_
        obtain ⟨q, hq, rfl⟩ := Option.map_eq_some_iff.1 h
        exact string?_suffix hq
      · exact staysWithin_scalar _
    case h_4 => trivial

end Compound

/-! ## Statements -/

theorem staysWithin_headerKey (opening closing s : List Char) :
    StaysWithin s (headerKey opening closing s) := by
  refine .orMalformed_bind fun r hkey => ?_
  have hsuffix : r.2 <:+ s :=
    (key?_suffix hkey).trans ((skipBlanks_suffix _).trans (List.drop_suffix _ _))
  simp only
  split_ifs
  · exact (List.drop_suffix _ _).trans hsuffix
  · trivial

theorem staysWithin_statement (a : Assembly) (s : List Char) : StaysWithin s (statement a s) := by
  unfold statement
  split
  case h_1 =>
    refine (staysWithin_headerKey _ _ _).bind fun r hr => ?_
    exact .orMalformed_bind fun a' _ => hr
  case h_2 =>
    refine (staysWithin_headerKey _ _ _).bind fun r hr => ?_
    exact .orMalformed_bind fun a' _ => hr
  case h_3 =>
    split_ifs
    · refine (staysWithin_keyAndValue (staysWithin_value _) _).bind fun r hr => ?_
      exact .orMalformed_bind fun a' _ => hr
    · exact List.suffix_refl _
    · trivial
  case h_4 => exact List.suffix_refl _

theorem hasLongNumber_of_readFrom {a : Assembly} {n : Nat}
    (h : readFrom a s = .error (.integerTooLong n)) : HasLongNumber n s := by
  induction a, s using readFrom.induct with
  | case1 a s hs =>
    rw [readFrom, hs] at h
    cases h
  | case2 a s hs ih =>
    obtain ⟨c, cs, hline⟩ := List.exists_cons_of_ne_nil hs
    have hstatement : StaysWithin s (statement a (skipBlanks s)) :=
      (staysWithin_statement a (skipBlanks s)).mono (skipBlanks_suffix s)
    rw [readFrom, hline] at h
    rw [hline] at hstatement
    simp only at h
    -- the fault is in the first statement, or in the lines behind it, which are an end of the text
    cases hread : statement a (c :: cs) with
    | error fault =>
      rw [hread] at h hstatement
      obtain rfl : fault = .integerTooLong n := Except.error.inj h
      exact hstatement
    | ok r =>
      rw [hread] at h hstatement
      cases hend : lineEnd? r.2 with
      | none => simp [hend, orMalformed, bind, Except.bind] at h
      | some more =>
        simp only [hend, orMalformed, bind, Except.bind] at h
        split_ifs at h with hlength
        · have hmore : more <:+ s := (lineEnd?_suffix hend).trans hstatement
          exact (ih r.1 more hlength h).mono hmore.isInfix
        · cases h

theorem prefix_of_joinBreaks {w : List Char} (hw : '\n' ∉ w) (h : w <+: joinBreaks s) :
    w <+: s := by
  fun_induction joinBreaks s generalizing w with
  | case1 => exact h
  | case2 cs ih =>
    cases w with
    | nil => exact List.nil_prefix
    | cons x w =>
      obtain rfl : x = '\n' := (List.cons_prefix_cons.1 h).1
      exact absurd (by simp) hw
  | case3 c cs hc ih =>
    cases w with
    | nil => exact List.nil_prefix
    | cons x w =>
      rw [List.cons_prefix_cons] at h ⊢
      exact ⟨h.1, ih (fun hmem => hw (by simp [hmem])) h.2⟩

/-- What stands on one line of the joined text stands in the text. -/
theorem infix_of_joinBreaks {w : List Char} (hw : '\n' ∉ w) (h : w <:+: joinBreaks s) :
    w <:+: s := by
  fun_induction joinBreaks s with
  | case1 => exact h
  | case2 cs ih =>
    rcases List.infix_cons_iff.1 h with h | h
    · exact (prefix_of_joinBreaks (s := '\r' :: '\n' :: cs) hw h).isInfix
    · exact (ih h).trans (List.suffix_append ['\r', '\n'] cs).isInfix
  | case3 c cs hc ih =>
    have hcons : joinBreaks (c :: cs) = c :: joinBreaks cs := by
      rw [joinBreaks]
      exact hc
    rcases List.infix_cons_iff.1 h with h | h
    · exact (prefix_of_joinBreaks hw (hcons ▸ h)).isInfix
    · exact (ih h).trans (List.suffix_cons _ _).isInfix

theorem hasLongNumber_of_read {n : Nat} (h : read s = .error (.integerTooLong n)) :
    HasLongNumber n s := by
  obtain ⟨hn, w, hw, hrun, hdigits⟩ := hasLongNumber_of_readFrom h
  refine ⟨hn, w, infix_of_joinBreaks ?_ hw, hrun, hdigits⟩
  intro hmem
  exact absurd (hrun '\n' hmem) (by decide)

end TableAtlas.Toml
