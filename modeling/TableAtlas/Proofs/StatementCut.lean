import TableAtlas.Proofs.LeadingName
import TableAtlas.Proofs.Nesting

/-!
# Cuts of a statement

A statement is cut at its first parenthesis and at the one that closes it. What comes of the cut
depends on the name in front of the first and on the depth that the text behind it reaches.
-/

namespace TableAtlas.Dump

open Text

variable {s : List Char} {d : Char}

/-! ## The front -/

theorem afterKeyword?_append_cons {k : List Char} (hd : ∀ c ∈ k, sameLetter c d = false)
    (u v : List Char) :
    afterKeyword? k (u ++ d :: v) = (afterKeyword? k u).map (· ++ d :: v) := by
  induction k generalizing u with
  | nil => cases u <;> rfl
  | cons c k ih =>
    cases u with
    | nil => simp [afterKeyword?, hd c (by simp)]
    | cons e u =>
      rw [List.cons_append, afterKeyword?, afterKeyword?]
      split
      · exact ih (fun x hx => hd x (by simp [hx])) u
      · rfl

theorem afterBlanks?_append_cons (hd : isBlank d = false) (u v : List Char) :
    afterBlanks? (u ++ d :: v) = (afterBlanks? u).map (· ++ d :: v) := by
  cases u with
  | nil => simp [afterBlanks?, hd]
  | cons c u =>
    rw [List.cons_append, afterBlanks?, afterBlanks?, dropWhile_append_cons hd]
    split <;> rfl

theorem afterGuard?_append_paren (u v : List Char) :
    afterGuard? (u ++ '(' :: v) = (afterGuard? u).map (· ++ '(' :: v) := by
  have hif : ∀ c ∈ "IF".toList, sameLetter c '(' = false := by decide
  have hnot : ∀ c ∈ "NOT".toList, sameLetter c '(' = false := by decide
  have hexists : ∀ c ∈ "EXISTS".toList, sameLetter c '(' = false := by decide
  have hblank : isBlank '(' = false := by decide
  simp only [afterGuard?, bind, afterKeyword?_append_cons hif, Option.bind_map, Function.comp_def,
    afterBlanks?_append_cons hblank, afterKeyword?_append_cons hnot,
    afterKeyword?_append_cons hexists, Option.map_bind]

/-- A statement names its table before its first parenthesis. -/
theorem tableName?_append_paren (u v : List Char) : tableName? (u ++ '(' :: v) = tableName? u := by
  have hword : isWord '(' = false := by decide
  have hquote : isQuote '(' = false := by decide
  have hblank : isBlank '(' = false := by decide
  simp only [tableName?, dropWhile_append_cons hblank, afterGuard?_append_paren,
    leadingName?_append_cons hword hquote, Option.bind_map, Function.comp_def]
  have hfirst : ∀ o o' : Option (List Char × List Char),
      ((o.map fun r => (r.1, r.2 ++ '(' :: v)).or (o'.map fun r => (r.1, r.2 ++ '(' :: v))).map
        (·.1) = (o.or o').map (·.1) := by
    intro o o'
    cases o <;> cases o' <;> rfl
  cases afterGuard? (u.dropWhile isBlank) with
  | none => exact hfirst none _
  | some g => exact hfirst (leadingName? g) _

/-! ## The parentheses -/

/-- A text that goes below its depth does so at its first closing parenthesis of that depth. -/
theorem exists_close_of_depth?_eq_none {d : Nat} (h : depth? d s = none) :
    ∃ p q, s = p ++ ')' :: q ∧ depth? d p = some 0 := by
  induction s generalizing d with
  | nil => simp [depth?] at h
  | cons c s ih =>
    by_cases hopen : c = '('
    · rw [hopen, depth?_open] at h
      obtain ⟨p, q, rfl, hp⟩ := ih h
      exact ⟨'(' :: p, q, by simp [hopen], by rwa [depth?_open]⟩
    · by_cases hclose : c = ')'
      · cases d with
        | zero => exact ⟨[], s, by simp [hclose], rfl⟩
        | succ d =>
          rw [hclose, depth?_close] at h
          obtain ⟨p, q, rfl, hp⟩ := ih h
          exact ⟨')' :: p, q, by simp [hclose], by rwa [depth?_close]⟩
      · rw [depth?_cons hopen hclose] at h
        obtain ⟨p, q, rfl, hp⟩ := ih h
        exact ⟨c :: p, q, by simp, by rwa [depth?_cons hopen hclose]⟩

theorem idxOf?_append_cons {u : List Char} {d : Char} (hu : d ∉ u) (v : List Char) :
    (u ++ d :: v).idxOf? d = some u.length := by
  rw [List.idxOf?_eq_some_iff]
  refine ⟨by simp, by simp, ?_⟩
  intro j hj h
  rw [List.getElem_append_left hj] at h
  exact hu (h ▸ List.getElem_mem hj)

/-- A statement is cut at its first parenthesis and where a neutral text behind it ends. -/
theorem ofStatement_of_neutral {front body rest name : List Char} (hfront : '(' ∉ front)
    (hbody : IsNeutral body)
    (hname : tableName? (front ++ '(' :: (body ++ ')' :: rest)) = some name) :
    Block.ofStatement (front ++ '(' :: (body ++ ')' :: rest)) = .ok ⟨name, body, rest⟩ := by
  have hlist : ((front ++ '(' :: (body ++ ')' :: rest)).drop (front.length + 1)).take
      (front.length + 1 + body.length - (front.length + 1)) = body := by
    have hcut : front ++ '(' :: (body ++ ')' :: rest) =
        (front ++ ['(']) ++ (body ++ ')' :: rest) := by
      simp
    have hlength : front.length + 1 = (front ++ ['(']).length := by simp
    rw [Nat.add_sub_cancel_left, hcut, hlength, List.drop_left, List.take_left]
  have hoptions : (front ++ '(' :: (body ++ ')' :: rest)).drop
      (front.length + 1 + body.length + 1) = rest := by
    have hcut : front ++ '(' :: (body ++ ')' :: rest) =
        (front ++ '(' :: (body ++ [')'])) ++ rest := by
      simp
    have hlength : front.length + 1 + body.length + 1 =
        (front ++ '(' :: (body ++ [')'])).length := by
      simp
      omega
    rw [hcut, hlength, List.drop_left]
  simp only [Block.ofStatement, hname, idxOf?_append_cons hfront, closing?_of_neutral hbody, hlist,
    hoptions]

theorem closing?_of_open {front : List Char} {e : Nat} (h : depth? 0 s = some e) :
    closing? (front ++ '(' :: s) front.length = none := by
  have hopen : closingFrom? 0 front.length ('(' :: s) =
      closingFrom? (0 + 1) (front.length + 1) s := rfl
  have hscan := closingFrom?_append (v := []) h (front.length + 1)
  rw [closing?, List.drop_left, hopen]
  simpa [closingFrom?] using hscan

/-- A statement whose column list is not closed is skipped. -/
theorem ofStatement_of_open {front : List Char} {e : Nat} (hfront : '(' ∉ front)
    (h : depth? 0 s = some e) :
    Block.ofStatement (front ++ '(' :: s) = match tableName? front with
      | none => .error .missingName
      | some _ => .error .unbalancedBody := by
  cases hname : tableName? front with
  | none => simp only [Block.ofStatement, tableName?_append_paren, hname]
  | some name =>
    simp only [Block.ofStatement, tableName?_append_paren, hname, idxOf?_append_cons hfront,
      closing?_of_open h]

theorem ofStatement_of_no_open (h : '(' ∉ s) :
    Block.ofStatement s = match tableName? s with
      | none => .error .missingName
      | some _ => .error .missingBody := by
  have hindex : s.idxOf? '(' = none := List.idxOf?_eq_none_iff.2 h
  cases hname : tableName? s with
  | none => simp only [Block.ofStatement, hname]
  | some name => simp only [Block.ofStatement, hname, hindex]

theorem ofStatement_of_closed {front p : List Char} (hfront : '(' ∉ front)
    (h : depth? 0 p = some 0) (q : List Char) :
    Block.ofStatement (front ++ '(' :: (p ++ ')' :: q)) = match tableName? front with
      | none => .error .missingName
      | some name => .ok ⟨name, p, q⟩ := by
  have hname := tableName?_append_paren front (p ++ ')' :: q)
  cases hfound : tableName? front with
  | none => simp only [Block.ofStatement, hname, hfound]
  | some name => exact ofStatement_of_neutral hfront (isNeutral_of_balanced h) (hname.trans hfound)

end TableAtlas.Dump
