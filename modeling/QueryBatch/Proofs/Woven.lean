import QueryBatch.Proofs.Quiet

/-! # Woven text

A statement is woven out of fixed words and of what is filled in between them: names, numbers and
placeholders, the vector of a search in single quotes, the relation of a range query in double
quotes. What is filled in is quiet, apart from the quotes around it, and stands behind a word. Words
begin and end with characters that are not in the start of a comment, so nothing starts where two
pieces meet.

* `isWord`: fixed words.
* `Woven`: woven text, with the numbers of its vectors and of its relations; `Woven.append`: woven
  text behind woven text.
* `Fills`: what may stand behind a word.
* `Woven.isChain`, `Woven.within`: **woven text starts no comment** and has neither semicolons nor
  backslashes.
* `HasRelations`: text with no double quotes but those around relations.
* `Woven.count_quote`, `Woven.hasRelations`: **its quotes are those around vectors and relations**.
-/

namespace QueryBatch

open Text

/-- **Words**: quiet text that begins and ends with characters that are in no start of a comment. -/
def isWord (w : String) : Bool :=
  isQuiet w && w.toList.head?.any closesNothing && w.toList.getLast?.any opensNothing

section Words

variable {w : String} (h : isWord w = true)
include h

theorem isQuiet_of_isWord : isQuiet w = true := by
  rw [isWord, Bool.and_eq_true, Bool.and_eq_true] at h
  exact h.1.1

theorem head_of_isWord : w.toList.head?.all closesNothing = true := by
  rw [isWord, Bool.and_eq_true, Bool.and_eq_true] at h
  obtain ⟨c, hc, hcloses⟩ := (Option.any_eq_true _ _).mp h.1.2
  rw [hc]
  exact hcloses

theorem last_append_of_isWord (l : List Char) :
    (l ++ w.toList).getLast?.all opensNothing = true := by
  rw [isWord, Bool.and_eq_true, Bool.and_eq_true] at h
  obtain ⟨c, hc, hopens⟩ := (Option.any_eq_true _ _).mp h.2
  rw [List.getLast?_append, hc, Option.some_or]
  exact hopens

end Words

/-! ### Pieces in quotes -/

theorem not_mem_of_isQuiet {s : String} (h : isQuiet s = true) {c : Char}
    (hc : isSpecial c = true) : c ∉ s.toList := by
  intro hmem
  have hnot := (isQuiet_iff.mp h).1 c hmem
  simp [hc] at hnot

theorem isQuiet_joined {separator : String} (hw : isWord separator = true) {l : List String}
    (hl : ∀ s ∈ l, isQuiet s = true) : isQuiet (joined separator l) = true := by
  have hsep := isQuiet_iff.mp (isQuiet_of_isWord hw)
  induction l with
  | nil =>
    rw [joined_nil]
    decide
  | cons s r ih =>
    have hs := isQuiet_iff.mp (hl s List.mem_cons_self)
    cases r with
    | nil => exact hl s List.mem_cons_self
    | cons t r =>
      have hr := isQuiet_iff.mp (ih fun t ht => hl t (List.mem_cons_of_mem s ht))
      rw [joined_cons_cons, isQuiet_iff]
      refine ⟨within_append.mpr ⟨within_append.mpr ⟨hs.1, hsep.1⟩, hr.1⟩, ?_⟩
      rw [String.toList_append, String.toList_append]
      have hfirst := isChain_append_of_head hs.2 hsep.2 (head_of_isWord hw)
      exact isChain_append_of_last hfirst hr.2 (last_append_of_isWord hw s.toList)

theorem exists_vectorLiteral (x : List Binary64) :
    ∃ q, isQuiet q = true ∧ vectorLiteral x = "'" ++ q ++ "'" := by
  have hjoined : isQuiet (joined "," (x.map Layout.component.write)) = true := by
    refine isQuiet_joined (by decide) fun s hs => ?_
    obtain ⟨y, -, rfl⟩ := List.mem_map.mp hs
    exact Layout.component.isQuiet_write y
  refine ⟨"[" ++ joined "," (x.map Layout.component.write) ++ "]", ?_, ?_⟩
  · obtain ⟨hwithin, hchain⟩ := isQuiet_iff.mp hjoined
    rw [isQuiet_iff, within_append, within_append, String.toList_append, String.toList_append]
    exact ⟨⟨⟨by decide, hwithin⟩, by decide⟩, isChain_between hchain (by decide) (by decide)
      (by decide)⟩
  · rw [vectorLiteral]
    apply String.ext
    simp

theorem isChain_quoted (quote : String) {q : String} (hq : isQuiet q = true)
    (ho : quote.toList.all opensNothing = true)
    (hc : quote.toList.head?.all closesNothing = true) :
    (quote ++ q ++ quote).toList.IsChain Apart := by
  rw [String.toList_append, String.toList_append]
  exact isChain_between (isQuiet_iff.mp hq).2 ho ho hc

/-! ### Woven text -/

/-- **Woven text**, as it is read from left to right. `ready` says that it ends in a word, so that
something may be filled in behind it; `vectors` and `relations` are the numbers of pieces in
quotes. -/
inductive Woven (table : String) : (ready : Bool) → (vectors relations : Nat) → String → Prop
  | empty : Woven table false 0 0 ""
  | word {b : Bool} {v r : Nat} {s : String} (h : Woven table b v r s) (w : String)
    (hw : isWord w = true) : Woven table true v r (s ++ w)
  | fill {v r : Nat} {s n : String} (h : Woven table true v r s) (hn : isQuiet n = true) :
    Woven table false v r (s ++ n)
  | vector {v r : Nat} {s : String} (h : Woven table true v r s) (x : List Binary64) :
    Woven table false (v + 1) r (s ++ vectorLiteral x)
  | relation {v r : Nat} {s : String} (h : Woven table true v r s) (ht : isQuiet table = true) :
    Woven table false v (r + 1) (s ++ quotedTable table)

/-- What may stand behind a word. -/
def Fills (table t : String) : Prop :=
  ∀ ⦃v r : Nat⦄ ⦃s : String⦄, Woven table true v r s → Woven table false v r (s ++ t)

section Pieces

variable {table s t w : String} {b b' : Bool} {v v' r r' : Nat}

theorem woven_word (table w : String) (hw : isWord w = true) : Woven table true 0 0 w := by
  have h : Woven table true 0 0 ("" ++ w) := Woven.empty.word w hw
  rwa [String.empty_append] at h

theorem Woven.settle (h : Woven table b v r s) : Woven table false v r s := by
  cases b with
  | false => exact h
  | true =>
    have hempty : Woven table false v r (s ++ "") := h.fill (by decide)
    rwa [String.append_empty] at hempty

theorem Woven.append (hs : Woven table b v r s) (ht : Woven table b' v' r' t) :
    Woven table b' (v + v') (r + r') (s ++ t) := by
  induction ht with
  | empty =>
    rw [String.append_empty]
    exact hs.settle
  | word _ w hw ih =>
    rw [← String.append_assoc]
    exact ih.word w hw
  | fill _ hn ih =>
    rw [← String.append_assoc]
    exact ih.fill hn
  | vector _ x ih =>
    rw [← String.append_assoc]
    exact ih.vector x
  | relation _ ht ih =>
    rw [← String.append_assoc]
    exact ih.relation ht

theorem fills_of_isQuiet (h : isQuiet t = true) : Fills table t := fun _ _ _ hs => hs.fill h

theorem Woven.fills (h : Woven table b 0 0 t) : Fills table t :=
  fun _ _ _ hs => (hs.append h).settle

theorem Fills.append (hs : Fills table s) (ht : Woven table b 0 0 t) : Fills table (s ++ t) := by
  intro v r u hu
  rw [← String.append_assoc]
  exact ((hs hu).append ht).settle

theorem fills_joined {separator : String} (hw : isWord separator = true) {l : List String}
    (hl : ∀ s ∈ l, Fills table s) : Fills table (joined separator l) := by
  induction l with
  | nil => exact fills_of_isQuiet (by rw [joined_nil]; decide)
  | cons s rest ih =>
    have hs : Fills table s := hl s List.mem_cons_self
    cases rest with
    | nil => exact hs
    | cons t rest =>
      intro v r u hu
      have hr : Fills table (joined separator (t :: rest)) :=
        ih fun t ht => hl t (List.mem_cons_of_mem s ht)
      rw [joined_cons_cons, ← String.append_assoc, ← String.append_assoc]
      exact hr ((hs hu).word separator hw)

theorem Woven.ite (h : Woven table b 0 0 t) (c : Prop) [Decidable c] :
    Woven table false 0 0 (if c then t else "") := by
  split
  · exact h.settle
  · exact .empty

end Pieces

/-! ### What woven text does not have -/

theorem joined_append_last (separator : String) (l : List String) (s t : String) :
    joined separator (l ++ [s]) ++ t = joined separator (l ++ [s ++ t]) := by
  induction l with
  | nil => rfl
  | cons a l ih =>
    cases l with
    | nil => simp only [List.nil_append, List.cons_append, joined_cons_cons, joined_singleton,
        String.append_assoc]
    | cons a' l =>
      simp only [List.cons_append, joined_cons_cons, String.append_assoc] at ih ⊢
      rw [ih]

theorem joined_append_empty (separator : String) {l : List String} (hne : l ≠ []) :
    joined separator (l ++ [""]) = joined separator l ++ separator := by
  induction l with
  | nil => exact absurd rfl hne
  | cons a l ih =>
    cases l with
    | nil => simp
    | cons a' l =>
      have hl := ih (List.cons_ne_nil _ _)
      simp only [List.cons_append, joined_cons_cons, String.append_assoc] at hl ⊢
      rw [hl]

/-- **Text with relations in double quotes**: pieces without double quotes, with the relation in
double quotes between any two neighbours. -/
def HasRelations (table : String) (n : Nat) (s : String) : Prop :=
  ∃ parts : List String, parts.length = n + 1 ∧ s = joined (quotedTable table) parts ∧
    ∀ p ∈ parts, '"' ∉ p.toList

namespace HasRelations

variable {table s t : String} {n : Nat}

theorem append (h : HasRelations table n s) (ht : '"' ∉ t.toList) :
    HasRelations table n (s ++ t) := by
  obtain ⟨parts, hlength, rfl, hparts⟩ := h
  rcases List.eq_nil_or_concat' parts with rfl | ⟨l, last, rfl⟩
  · simp at hlength
  refine ⟨l ++ [last ++ t], by simpa using hlength, joined_append_last _ l last t, fun p hp => ?_⟩
  rcases List.mem_append.mp hp with hp | hp
  · exact hparts p (List.mem_append_left _ hp)
  · have hlast := hparts last (List.mem_append_right _ (List.mem_singleton_self last))
    rw [List.mem_singleton.mp hp, String.toList_append, List.mem_append]
    exact not_or.mpr ⟨hlast, ht⟩

theorem relation (h : HasRelations table n s) :
    HasRelations table (n + 1) (s ++ quotedTable table) := by
  obtain ⟨parts, hlength, rfl, hparts⟩ := h
  have hne : parts ≠ [] := List.ne_nil_of_length_eq_add_one hlength
  refine ⟨parts ++ [""], by simp [hlength], (joined_append_empty _ hne).symm, fun p hp => ?_⟩
  rcases List.mem_append.mp hp with hp | hp
  · exact hparts p hp
  · rw [List.mem_singleton.mp hp]
    decide

theorem not_mem (h : HasRelations table 0 s) : '"' ∉ s.toList := by
  obtain ⟨parts, hlength, rfl, hparts⟩ := h
  obtain ⟨p, rfl⟩ := List.length_eq_one_iff.mp hlength
  exact hparts p (List.mem_singleton_self p)

end HasRelations

namespace Woven

variable {table s : String} {b : Bool} {v r : Nat}

theorem isChain_and_last (h : Woven table b v r s) : s.toList.IsChain Apart ∧
    (b = true → s.toList.getLast?.all opensNothing = true) := by
  induction h with
  | empty => exact ⟨List.isChain_nil, nofun⟩
  | word _ w hw ih =>
    have hquiet := isQuiet_iff.mp (isQuiet_of_isWord hw)
    rw [String.toList_append]
    exact ⟨isChain_append_of_head ih.1 hquiet.2 (head_of_isWord hw),
      fun _ => last_append_of_isWord hw _⟩
  | fill _ hn ih =>
    rw [String.toList_append]
    exact ⟨isChain_append_of_last ih.1 (isQuiet_iff.mp hn).2 (ih.2 rfl), nofun⟩
  | vector _ x ih =>
    obtain ⟨q, hq, hx⟩ := exists_vectorLiteral x
    have hquoted := isChain_quoted "'" hq (by decide) (by decide)
    rw [String.toList_append, hx]
    exact ⟨isChain_append_of_last ih.1 hquoted (ih.2 rfl), nofun⟩
  | relation _ ht ih =>
    have hquoted := isChain_quoted "\"" ht (by decide) (by decide)
    rw [String.toList_append, quotedTable]
    exact ⟨isChain_append_of_last ih.1 hquoted (ih.2 rfl), nofun⟩

/-- **Woven text starts no comment.** -/
theorem isChain (h : Woven table b v r s) : s.toList.IsChain Apart := h.isChain_and_last.1

/-- **Woven text has neither semicolons nor backslashes.** -/
theorem within (h : Woven table b v r s) : Within (fun c => c != ';' && c != '\\') s := by
  have hquiet : ∀ {q : String}, isQuiet q = true → Within (fun c => c != ';' && c != '\\') q := by
    intro q hq
    refine (isQuiet_iff.mp hq).1.mono fun c hc => ?_
    simp only [isSpecial, Bool.not_eq_true', Bool.or_eq_false_iff, beq_eq_false_iff_ne] at hc
    simp [hc]
  induction h with
  | empty => decide
  | word _ w hw ih => exact within_append.mpr ⟨ih, hquiet (isQuiet_of_isWord hw)⟩
  | fill _ hn ih => exact within_append.mpr ⟨ih, hquiet hn⟩
  | vector _ x ih =>
    obtain ⟨q, hq, hx⟩ := exists_vectorLiteral x
    rw [hx]
    refine within_append.mpr ⟨ih, within_append.mpr ⟨within_append.mpr ⟨?_, hquiet hq⟩, ?_⟩⟩ <;>
      decide
  | relation _ ht ih =>
    refine within_append.mpr ⟨ih, within_append.mpr ⟨within_append.mpr ⟨?_, hquiet ht⟩, ?_⟩⟩ <;>
      decide

/-- **The single quotes of woven text are those around its vectors.** -/
theorem count_quote (h : Woven table b v r s) : s.toList.count '\'' = 2 * v := by
  have hquiet : ∀ {q : String}, isQuiet q = true → q.toList.count '\'' = 0 := fun hq =>
    List.count_eq_zero_of_not_mem (not_mem_of_isQuiet hq (by decide))
  induction h with
  | empty => rfl
  | word _ w hw ih =>
    rw [String.toList_append, List.count_append, ih, hquiet (isQuiet_of_isWord hw), Nat.add_zero]
  | fill _ hn ih => rw [String.toList_append, List.count_append, ih, hquiet hn, Nat.add_zero]
  | @vector v _ _ _ x ih =>
    obtain ⟨q, hq, hx⟩ := exists_vectorLiteral x
    have hone : "'".toList.count '\'' = 1 := by decide
    simp only [hx, String.toList_append, List.count_append, ih, hquiet hq, hone]
    omega
  | relation _ ht ih =>
    have hnone : "\"".toList.count '\'' = 0 := by decide
    simp only [quotedTable, String.toList_append, List.count_append, ih, hquiet ht, hnone]
    omega

/-- **The double quotes of woven text are those around its relations.** -/
theorem hasRelations (h : Woven table b v r s) : HasRelations table r s := by
  have hquiet : ∀ {q : String}, isQuiet q = true → '"' ∉ q.toList := fun hq =>
    not_mem_of_isQuiet hq (by decide)
  induction h with
  | empty => exact ⟨[""], rfl, rfl, by decide⟩
  | word _ w hw ih => exact ih.append (hquiet (isQuiet_of_isWord hw))
  | fill _ hn ih => exact ih.append (hquiet hn)
  | vector _ x ih =>
    obtain ⟨q, hq, hx⟩ := exists_vectorLiteral x
    have hnone := hquiet hq
    refine ih.append ?_
    rw [hx]
    simp [hnone]
  | relation _ _ ih => exact ih.relation

end Woven

end QueryBatch
