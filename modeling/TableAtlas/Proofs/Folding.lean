import Mathlib.Data.List.Infix
import TableAtlas.Text.Keyword
import TableAtlas.Text.Search

/-!
# Folding of letter case

Folding maps every form of a letter to its capital and leaves all other characters alone. A
keyword in capitals stands at the front of a text exactly if it is a prefix of the folded text,
and it occurs in a text exactly if it is an infix of the folded text. So the search for a
keyword becomes a matter of prefixes and infixes of lists.
-/

namespace TableAtlas.Text

theorem toNat_toUpper (c : Char) :
    c.toUpper.toNat = if 97 ≤ c.toNat ∧ c.toNat ≤ 122 then c.toNat - 32 else c.toNat := by
  unfold Char.toUpper
  simp only [UInt32.le_iff_toNat_le, ← Char.toNat_val, Char.reduceVal, UInt32.reduceToNat]
  split
  · change (c.val + 4294967264).toNat = _
    rw [UInt32.toNat_add]
    simp only [UInt32.reduceToNat]
    omega
  · rfl

theorem toNat_toLower (c : Char) :
    c.toLower.toNat = if 65 ≤ c.toNat ∧ c.toNat ≤ 90 then c.toNat + 32 else c.toNat := by
  unfold Char.toLower
  simp only [UInt32.le_iff_toNat_le, ← Char.toNat_val, Char.reduceVal, UInt32.reduceToNat]
  split
  · change (c.val + 32).toNat = _
    rw [UInt32.toNat_add]
    simp only [UInt32.reduceToNat]
    omega
  · rfl

theorem toUpper_eq_iff {k c : Char} (hk : k.toUpper = k) :
    c.toUpper = k ↔ c = k ∨ c = k.toLower := by
  have h := toNat_toUpper k
  rw [hk] at h
  simp only [← Char.toNat_inj, toNat_toUpper, toNat_toLower]
  split at h <;> split <;> split <;> omega

/-- The capital of which a character is a form, or the character itself. -/
def foldCase (c : Char) : Char :=
  if c = '\u0130' ∨ c = '\u0131' then 'I'
  else if c = '\u017f' then 'S'
  else if c = '\u212a' then 'K'
  else c.toUpper

def fold (s : List Char) : List Char := s.map foldCase

@[simp] theorem fold_nil : fold [] = [] := rfl

@[simp] theorem fold_cons (c : Char) (s : List Char) : fold (c :: s) = foldCase c :: fold s := rfl

@[simp] theorem fold_append (s t : List Char) : fold (s ++ t) = fold s ++ fold t := by
  simp [fold]

theorem fold_eq_append_iff {s k t : List Char} :
    fold s = k ++ t ↔ ∃ w r, s = w ++ r ∧ fold w = k ∧ fold r = t :=
  List.map_eq_append_iff

theorem toUpper_of_foldCase {k : Char} (hk : foldCase k = k) : k.toUpper = k := by
  unfold foldCase at hk
  split at hk
  · subst hk; rfl
  · split at hk
    · subst hk; rfl
    · split at hk
      · subst hk; rfl
      · exact hk

/-- The forms of a letter are the characters that fold to it. -/
theorem sameLetter_iff {k c : Char} (hk : foldCase k = k) :
    sameLetter k c = true ↔ foldCase c = k := by
  have hu := toUpper_eq_iff (c := c) (toUpper_of_foldCase hk)
  have hself : c = '\u0130' ∨ c = '\u0131' ∨ c = '\u017f' ∨ c = '\u212a' → c.toUpper = c := by
    rintro (rfl | rfl | rfl | rfl) <;> rfl
  simp only [sameLetter, Bool.or_eq_true, decide_eq_true_eq, ← hu]
  unfold foldCase at hk ⊢
  split <;> grind

theorem foldCase_of_mem {k : List Char} (hk : fold k = k) {x : Char} (hx : x ∈ k) :
    foldCase x = x := by
  have hmap : k.map foldCase = k.map id := by
    rw [List.map_id]
    exact hk
  exact List.map_eq_map_iff.1 hmap x hx

/-- Upper case among ASCII characters is coarser than folding on no capital. -/
theorem foldCase_of_toUpper {c k : Char} (hc : c.toUpper = k) (hk : foldCase k = k) :
    foldCase c = k := by
  apply (sameLetter_iff hk).1
  rcases (toUpper_eq_iff (toUpper_of_foldCase hk)).1 hc with h | h
  · simp [sameLetter, ← h]
  · simp [sameLetter, ← h]

theorem fold_of_toUpper {w k : List Char} (hw : w.map Char.toUpper = k) (hk : fold k = k) :
    fold w = k := by
  subst hw
  apply List.map_congr_left
  intro c hc
  exact foldCase_of_toUpper rfl (foldCase_of_mem hk (List.mem_map_of_mem hc))

/-- A character that is no letter is its own only form. -/
theorem foldCase_eq_iff {c d : Char} (hd : foldCase d = d) (hl : d.toLower = d) :
    foldCase c = d ↔ c = d := by
  rw [← sameLetter_iff hd]
  simp only [sameLetter, hl, Bool.or_self, Bool.or_eq_true, decide_eq_true_eq, or_iff_left_iff_imp]
  split
  · simp at hl
  · simp at hl
  · simp at hl
  · simp

/-- A text that folds to two words with a space between them is cut at the same place. -/
theorem fold_eq_append_space_iff {s a b : List Char} :
    fold s = a ++ ' ' :: b ↔ ∃ u v, s = u ++ ' ' :: v ∧ fold u = a ∧ fold v = b := by
  have hspace : ∀ c : Char, foldCase c = ' ' ↔ c = ' ' := fun c =>
    foldCase_eq_iff (by decide) (by decide)
  constructor
  · intro h
    obtain ⟨u, r, rfl, hu, hr⟩ := fold_eq_append_iff.1 h
    cases r with
    | nil => cases hr
    | cons e v =>
      obtain ⟨he, hv⟩ := List.cons.inj hr
      obtain rfl := (hspace e).1 he
      exact ⟨u, v, rfl, hu, hv⟩
  · rintro ⟨u, v, rfl, rfl, rfl⟩
    rw [fold_append, fold_cons, (hspace ' ').2 rfl]

theorem isBlank_foldCase (c : Char) : isBlank (foldCase c) = isBlank c := by
  unfold foldCase
  split
  case isTrue h => rcases h with rfl | rfl <;> rfl
  case isFalse =>
    split
    case isTrue h => subst h; rfl
    case isFalse =>
      split
      case isTrue h => subst h; rfl
      case isFalse =>
        unfold isBlank
        rw [toNat_toUpper]
        split
        · have hc : ∀ n, 32 < n → n < 133 → inRanges n blankRanges = false := by
            intro n h₁ h₂
            simp only [blankRanges, inRanges]
            repeat rw [if_neg (by omega), if_neg (by omega)]
            rw [if_pos (by omega)]
          rw [hc _ (by omega) (by omega), hc _ (by omega) (by omega)]
        · rfl

theorem not_blank_of_mem_fold {k w : List Char} (hk : fold k = w)
    (hw : ∀ x ∈ w, isBlank x = false) : ∀ x ∈ k, isBlank x = false := by
  intro x hx
  rw [← isBlank_foldCase]
  exact hw _ (hk ▸ List.mem_map_of_mem hx)

theorem head_not_blank_of_fold {s : List Char} (h : ∀ x ∈ (fold s).head?, isBlank x = false) :
    ∀ x ∈ s.head?, isBlank x = false := by
  intro x hx
  rw [← isBlank_foldCase]
  apply h
  simp [fold, Option.mem_def.1 hx]

theorem last_not_blank_of_fold {s : List Char} (h : ∀ x ∈ (fold s).getLast?, isBlank x = false) :
    ∀ x ∈ s.getLast?, isBlank x = false := by
  intro x hx
  rw [← isBlank_foldCase]
  apply h
  simp [fold, Option.mem_def.1 hx]

theorem afterKeyword?_eq_some_iff_fold {k s r : List Char} (hk : fold k = k) :
    afterKeyword? k s = some r ↔ ∃ w, fold w = k ∧ s = w ++ r := by
  induction k generalizing s with
  | nil => simp [afterKeyword?, fold, eq_comm]
  | cons c cs ih =>
    obtain ⟨hc, hcs⟩ := List.cons.inj hk
    cases s with
    | nil =>
      simp only [afterKeyword?, reduceCtorEq, false_iff]
      rintro ⟨w, hw, hnil⟩
      obtain ⟨rfl, -⟩ := List.append_eq_nil_iff.1 hnil.symm
      simp at hw
    | cons d ds =>
      rw [afterKeyword?]
      split
      case isTrue h =>
        rw [ih hcs]
        constructor
        · rintro ⟨w, hw, rfl⟩
          exact ⟨d :: w, by simp [(sameLetter_iff hc).1 h, hw], rfl⟩
        · rintro ⟨_ | ⟨e, w⟩, hw, hs⟩
          · simp at hw
          · obtain ⟨rfl, rfl⟩ := List.cons.inj hs
            exact ⟨w, (List.cons.inj hw).2, rfl⟩
      case isFalse h =>
        simp only [reduceCtorEq, false_iff]
        rintro ⟨_ | ⟨e, w⟩, hw, hs⟩
        · simp at hw
        · obtain ⟨rfl, rfl⟩ := List.cons.inj hs
          exact h ((sameLetter_iff hc).2 (List.cons.inj hw).1)

theorem hasKeyword_iff {k s : List Char} (hk : fold k = k) :
    hasKeyword k s = true ↔ k <+: fold s := by
  rw [hasKeyword, Option.isSome_iff_exists]
  constructor
  · rintro ⟨r, hr⟩
    obtain ⟨w, rfl, rfl⟩ := (afterKeyword?_eq_some_iff_fold hk).1 hr
    exact ⟨fold r, by simp⟩
  · rintro ⟨t, ht⟩
    obtain ⟨w, r, rfl, hw, -⟩ := fold_eq_append_iff.1 ht.symm
    exact ⟨r, (afterKeyword?_eq_some_iff_fold hk).2 ⟨w, hw, rfl⟩⟩

theorem occurs_hasKeyword_iff {k s : List Char} (hk : fold k = k) :
    occurs (hasKeyword k) s = true ↔ k <:+: fold s := by
  rw [occurs_eq_true_iff]
  constructor
  · rintro ⟨u, v, rfl, hv⟩
    obtain ⟨t, ht⟩ := (hasKeyword_iff hk).1 hv
    exact ⟨fold u, t, by simp [← ht]⟩
  · rintro ⟨a, b, hab⟩
    rw [List.append_assoc] at hab
    obtain ⟨u, v, rfl, -, hv⟩ := fold_eq_append_iff.1 hab.symm
    exact ⟨u, v, rfl, (hasKeyword_iff hk).2 ⟨b, hv.symm⟩⟩

end TableAtlas.Text
