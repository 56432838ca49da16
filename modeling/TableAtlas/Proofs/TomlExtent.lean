import Mathlib.Data.List.Infix
import TableAtlas.Toml.Reader

/-!
# The extent of TOML

Every reader of a part returns an end of the text that it was given: it neither adds to the text
nor goes back in it.
-/

namespace TableAtlas.Toml

open Text Config

variable {s t done : List Char}

/-! ## Blanks and strings -/

section Lexical

theorem skipBlanks_suffix (s : List Char) : skipBlanks s <:+ s := List.dropWhile_suffix _

theorem skipFiller?_suffix {inComment : Bool} (h : skipFiller? inComment s = some t) :
    t <:+ s := by
  induction s generalizing inComment with
  | nil => simp_all [skipFiller?]
  | cons c cs ih =>
    have htail : ∀ b, skipFiller? b cs = some t → t <:+ c :: cs := fun b hb =>
      (ih hb).trans (List.suffix_cons c cs)
    rw [skipFiller?] at h
    split_ifs at h
    · exact htail _ h
    · exact htail _ h
    · exact htail _ h
    · exact htail _ h
    · rw [← Option.some.inj h]

theorem lineEnd?_suffix (h : lineEnd? s = some t) : t <:+ s := by
  have hskip := skipBlanks_suffix s
  unfold lineEnd? at h
  split at h
  case h_1 cs hcs =>
    have hcomment : cs.dropWhile (· ≠ '\n') <:+ s :=
      (List.dropWhile_suffix _).trans ((List.suffix_cons '#' cs).trans (hcs ▸ hskip))
    by_cases hcontrol : (cs.takeWhile (· ≠ '\n')).any isControl = true
    · rw [if_pos hcontrol] at h
      cases h
    · rw [if_neg hcontrol] at h
      cases hend : cs.dropWhile (· ≠ '\n') with
      | nil =>
        rw [hend] at h hcomment
        rwa [← Option.some.inj h]
      | cons d ds =>
        rw [hend] at h hcomment
        simp only at h
        split_ifs at h
        rw [← Option.some.inj h]
        exact (List.suffix_cons d ds).trans hcomment
  case h_2 =>
    cases hend : skipBlanks s with
    | nil =>
      rw [hend] at h hskip
      rwa [← Option.some.inj h]
    | cons d ds =>
      rw [hend] at h hskip
      simp only at h
      split_ifs at h
      rw [← Option.some.inj h]
      exact (List.suffix_cons d ds).trans hskip

theorem codedChar?_suffix {width : Nat} {r : Char × List Char} (h : codedChar? width s = some r) :
    r.2 <:+ s := by
  unfold codedChar? at h
  split_ifs at h
  split at h
  · split_ifs at h
    rw [← Option.some.inj h]
    exact List.drop_suffix _ _
  · cases h

theorem escape?_suffix {multiline : Bool} {r : List Char × List Char}
    (h : escape? multiline s = some r) : r.2 <:+ s := by
  unfold escape? at h
  split at h
  case h_1 => cases h
  case h_2 c cs =>
    have hcs : cs <:+ c :: cs := List.suffix_cons c cs
    split_ifs at h
    · split at h
      case h_1 rest hskip =>
        have hrest : '\n' :: rest <:+ c :: cs := hskip ▸ skipBlanks_suffix _
        rw [← Option.some.inj h]
        exact (List.dropWhile_suffix _).trans ((List.suffix_cons _ _).trans hrest)
      case h_2 => cases h
    · obtain ⟨q, hq, rfl⟩ := Option.map_eq_some_iff.1 h
      exact (codedChar?_suffix hq).trans hcs
    · obtain ⟨q, hq, rfl⟩ := Option.map_eq_some_iff.1 h
      exact (codedChar?_suffix hq).trans hcs
    · obtain ⟨q, hq, rfl⟩ := Option.map_eq_some_iff.1 h
      exact hcs

theorem basicBody?_suffix {multiline : Bool} {r : List Char × List Char} :
    basicBody? multiline done s = some r → r.2 <:+ s := by
  fun_induction basicBody? multiline done s with
  | case1 done => simp
  | case2 done hm rest =>
    rintro ⟨⟩
    exact List.suffix_append ['"', '"', '"'] rest
  | case3 done hm more hmore ih =>
    intro h
    exact (ih h).trans (List.suffix_cons _ _)
  | case4 done cs =>
    rintro ⟨⟩
    exact List.suffix_cons _ _
  | case5 => simp
  | case6 done cs chars rest hescape hlength ih =>
    intro h
    exact (ih h).trans ((escape?_suffix hescape).trans (List.suffix_cons _ _))
  | case7 => simp
  | case8 => simp
  | case9 done c cs hquote hslash hcontrol ih =>
    intro h
    exact (ih h).trans (List.suffix_cons _ _)

theorem literalBody?_suffix {r : List Char × List Char} :
    literalBody? done s = some r → r.2 <:+ s := by
  fun_induction literalBody? done s with
  | case1 => simp
  | case2 done rest =>
    rintro ⟨⟩
    exact List.suffix_append ['\'', '\'', '\''] rest
  | case3 => simp
  | case4 done c cs hquotes hcontrol ih =>
    intro h
    exact (ih h).trans (List.suffix_cons _ _)

theorem literalLine?_suffix {r : List Char × List Char} (h : literalLine? s = some r) :
    r.2 <:+ s := by
  unfold literalLine? at h
  have hdrop : s.dropWhile (· ≠ '\'') <:+ s := List.dropWhile_suffix _
  split at h
  case h_1 => cases h
  case h_2 c rest hrest =>
    simp only at h
    split_ifs at h
    rw [← Option.some.inj h]
    exact (List.suffix_cons _ _).trans (hrest ▸ hdrop)

theorem dropFirstBreak_suffix (s : List Char) : dropFirstBreak s <:+ s := by
  unfold dropFirstBreak
  split
  · exact List.suffix_cons _ _
  · exact List.suffix_refl _

theorem takeQuotes_suffix (quote : Char) (r : List Char × List Char) :
    (takeQuotes quote r).2 <:+ r.2 := by
  unfold takeQuotes
  split
  case h_1 a b rest hr =>
    rw [hr]
    split_ifs
    · exact List.suffix_append [a, b] rest
    · exact List.suffix_cons a _
    · exact hr ▸ List.suffix_refl _
  case h_2 a hr =>
    split_ifs
    · exact List.nil_suffix
    · exact List.suffix_refl _
  case h_3 => exact List.suffix_refl _

theorem string?_suffix {r : List Char × List Char} (h : string? s = some r) : r.2 <:+ s := by
  unfold string? at h
  split at h
  case h_1 cs =>
    obtain ⟨q, hq, rfl⟩ := Option.map_eq_some_iff.1 h
    have hbody := (basicBody?_suffix hq).trans (dropFirstBreak_suffix cs)
    exact (takeQuotes_suffix _ q).trans (hbody.trans (List.suffix_append ['"', '"', '"'] cs))
  case h_2 => exact (basicBody?_suffix h).trans (List.suffix_cons _ _)
  case h_3 cs =>
    obtain ⟨q, hq, rfl⟩ := Option.map_eq_some_iff.1 h
    have hbody := (literalBody?_suffix hq).trans (dropFirstBreak_suffix cs)
    exact (takeQuotes_suffix _ q).trans (hbody.trans (List.suffix_append ['\'', '\'', '\''] cs))
  case h_4 => exact (literalLine?_suffix h).trans (List.suffix_cons _ _)
  case h_5 => cases h

theorem keyPart?_suffix {r : String × List Char} (h : keyPart? s = some r) : r.2 <:+ s := by
  unfold keyPart? at h
  split at h
  case h_1 =>
    obtain ⟨q, hq, rfl⟩ := Option.map_eq_some_iff.1 h
    exact (basicBody?_suffix hq).trans (List.suffix_cons _ _)
  case h_2 =>
    obtain ⟨q, hq, rfl⟩ := Option.map_eq_some_iff.1 h
    exact (literalLine?_suffix hq).trans (List.suffix_cons _ _)
  case h_3 =>
    split_ifs at h
    rw [← Option.some.inj h]
    exact List.dropWhile_suffix _

theorem key?_suffix {r : List String × List Char} : key? s = some r → r.2 <:+ s := by
  fun_induction key? s generalizing r with
  | case1 => simp
  | case2 s part rest hpart more hmore hlength ih =>
    intro h
    obtain ⟨q, hq, rfl⟩ := Option.map_eq_some_iff.1 h
    have hdot : '.' :: more <:+ rest := hmore ▸ skipBlanks_suffix rest
    exact (ih hq).trans ((skipBlanks_suffix more).trans ((List.suffix_cons _ _).trans
      (hdot.trans (keyPart?_suffix hpart))))
  | case3 => simp
  | case4 s part rest hpart hdot =>
    rintro ⟨⟩
    exact (skipBlanks_suffix _).trans (keyPart?_suffix hpart)

end Lexical

/-! ## Scalars -/

section Scalars

theorem fixedNumber?_suffix {width lo hi : Nat} {r : Nat × List Char}
    (h : fixedNumber? width lo hi s = some r) : r.2 <:+ s := by
  simp only [fixedNumber?] at h
  split_ifs at h
  rw [← Option.some.inj h]
  exact List.drop_suffix _ _

theorem char?_suffix {c : Char} (h : char? c s = some t) : t <:+ s := by
  cases s with
  | nil => cases h
  | cons d cs =>
    rw [char?] at h
    split_ifs at h
    rw [← Option.some.inj h]
    exact List.suffix_cons d cs

theorem date?_suffix {r : Date × List Char} (h : date? s = some r) : r.2 <:+ s := by
  simp only [date?, Option.bind_eq_bind, Option.bind_eq_some_iff, Option.pure_def] at h
  obtain ⟨year, hyear, s₁, hdash, month, hmonth, s₂, hdash', day, hday, ⟨⟩⟩ := h
  exact (fixedNumber?_suffix hday).trans ((char?_suffix hdash').trans
    ((fixedNumber?_suffix hmonth).trans ((char?_suffix hdash).trans (fixedNumber?_suffix hyear))))

theorem microseconds_suffix (s : List Char) : (microseconds s).2 <:+ s := by
  unfold microseconds
  split
  · simp only
    split_ifs
    · exact List.suffix_refl _
    · exact (List.dropWhile_suffix _).trans (List.suffix_cons _ _)
  · exact List.suffix_refl _

theorem time?_suffix {r : TimeOfDay × List Char} (h : time? s = some r) : r.2 <:+ s := by
  simp only [time?, Option.bind_eq_bind, Option.bind_eq_some_iff, Option.pure_def] at h
  obtain ⟨hour, hhour, s₁, hcolon, minute, hminute, s₂, hcolon', second, hsecond, ⟨⟩⟩ := h
  exact (microseconds_suffix _).trans ((fixedNumber?_suffix hsecond).trans
    ((char?_suffix hcolon').trans ((fixedNumber?_suffix hminute).trans
      ((char?_suffix hcolon).trans (fixedNumber?_suffix hhour)))))

theorem offset?_suffix {r : Int × List Char} (h : offset? s = some r) : r.2 <:+ s := by
  unfold offset? at h
  split at h
  case h_1 => cases h
  case h_2 c cs =>
    by_cases hzero : c = 'Z' || c = 'z'
    · rw [if_pos hzero] at h
      rw [← Option.some.inj h]
      exact List.suffix_cons c cs
    · rw [if_neg hzero] at h
      by_cases hsign : c = '+' || c = '-'
      · rw [if_pos hsign] at h
        simp only [Option.bind_eq_bind, Option.bind_eq_some_iff, Option.pure_def] at h
        obtain ⟨hours, hhours, s₁, hcolon, minutes, hminutes, ⟨⟩⟩ := h
        exact (fixedNumber?_suffix hminutes).trans ((char?_suffix hcolon).trans
          ((fixedNumber?_suffix hhours).trans (List.suffix_cons c cs)))
      · rw [if_neg hsign] at h
        cases h

theorem dateSeparator?_suffix (h : dateSeparator? s = some t) : t <:+ s := by
  cases s with
  | nil => cases h
  | cons c cs =>
    rw [dateSeparator?] at h
    split_ifs at h
    rw [← Option.some.inj h]
    exact List.suffix_cons c cs

theorem dateAndTime_suffix (d : Date) (s : List Char) : (dateAndTime d s).2 <:+ s := by
  unfold dateAndTime
  split
  case h_1 => exact List.suffix_refl _
  case h_2 r htime =>
    obtain ⟨u, hu, ht⟩ := Option.bind_eq_some_iff.1 htime
    have hrest := (time?_suffix ht).trans (dateSeparator?_suffix hu)
    split
    case h_1 => exact hrest
    case h_2 hoffset => exact (offset?_suffix hoffset).trans hrest

theorem moreDigits_suffix (p : Char → Bool) (s : List Char) : (moreDigits p s).2 <:+ s := by
  fun_induction moreDigits p s with
  | case1 => exact List.suffix_refl _
  | case2 c => exact List.nil_suffix
  | case3 c => exact List.suffix_refl _
  | case4 c d cs hc r ih => exact ih.trans (List.suffix_cons _ _)
  | case5 c d cs hc hd r ih => exact ih.trans (List.suffix_append [c, d] cs)
  | case6 c d cs hc hd => exact List.suffix_refl _

theorem digitRun?_suffix {p : Char → Bool} {r : List Char × List Char}
    (h : digitRun? p s = some r) : r.2 <:+ s := by
  unfold digitRun? at h
  split at h
  case h_1 => cases h
  case h_2 c cs =>
    split_ifs at h
    rw [← Option.some.inj h]
    exact (moreDigits_suffix p cs).trans (List.suffix_cons c cs)

theorem radixNumber?_suffix {r : Nat × List Char} (h : radixNumber? s = some r) : r.2 <:+ s := by
  have hrun : ∀ {p : Char → Bool} {base : Nat} {c d : Char} {cs : List Char},
      (digitRun? p cs).map (fun r => (digitsValue base r.1, r.2)) = some r →
        r.2 <:+ c :: d :: cs := by
    intro p base c d cs h
    obtain ⟨q, hq, rfl⟩ := Option.map_eq_some_iff.1 h
    exact (digitRun?_suffix hq).trans (List.suffix_append [c, d] cs)
  unfold radixNumber? at h
  split at h
  case h_1 => exact hrun h
  case h_2 => exact hrun h
  case h_3 => exact hrun h
  case h_4 => cases h

theorem signAndRest_suffix (s : List Char) : (signAndRest s).2 <:+ s := by
  unfold signAndRest
  split
  · exact List.suffix_cons _ _
  · exact List.suffix_cons _ _
  · exact List.suffix_refl _

theorem wholePart?_suffix {r : List Char × List Char} (h : wholePart? s = some r) : r.2 <:+ s := by
  unfold wholePart? at h
  split at h
  · rw [← Option.some.inj h]
    exact List.suffix_cons _ _
  · exact digitRun?_suffix h

theorem fraction?_suffix {r : List Char × List Char} (h : fraction? s = some r) : r.2 <:+ s := by
  unfold fraction? at h
  split at h
  · exact (digitRun?_suffix h).trans (List.suffix_cons _ _)
  · cases h

theorem exponent?_suffix {r : Int × List Char} (h : exponent? s = some r) : r.2 <:+ s := by
  unfold exponent? at h
  split at h
  case h_1 => cases h
  case h_2 c cs =>
    split_ifs at h
    obtain ⟨q, hq, rfl⟩ := Option.map_eq_some_iff.1 h
    exact (digitRun?_suffix hq).trans ((signAndRest_suffix cs).trans (List.suffix_cons c cs))

theorem realNumber?_suffix {negative : Bool} {whole : List Char} {r : Value × List Char}
    (h : realNumber? negative whole s = some r) : r.2 <:+ s := by
  unfold realNumber? at h
  split at h
  case h_1 =>
    obtain ⟨q, hq, rfl⟩ := Option.map_eq_some_iff.1 h
    exact exponent?_suffix hq
  case h_2 places rest hfraction =>
    rw [← Option.some.inj h]
    have hrest := fraction?_suffix hfraction
    cases hexponent : exponent? rest with
    | none => exact hrest
    | some q => exact (exponent?_suffix hexponent).trans hrest

theorem specialNumber?_suffix {r : Value × List Char} (h : specialNumber? s = some r) :
    r.2 <:+ s := by
  obtain ⟨q, hq, rfl⟩ := Option.map_eq_some_iff.1 h
  exact List.drop_suffix _ _

theorem flag?_suffix {r : Value × List Char} (h : flag? s = some r) : r.2 <:+ s := by
  unfold flag? at h
  split_ifs at h
  · rw [← Option.some.inj h]
    exact List.drop_suffix _ _
  · rw [← Option.some.inj h]
    exact List.drop_suffix _ _

end Scalars

end TableAtlas.Toml
