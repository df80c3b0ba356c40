import Mathlib.Data.List.Basic

/-!
# Lines of words

A line is a text of words with blanks between them. Its words come in clauses,
with a separating word between any two of them; a format writes each clause
from a value and reads the value back.
-/

namespace Library

namespace Words

/-! ## The words of a line -/

def words (line : String) : List String := (line.toList.splitOn ' ').map String.ofList

def unwords (ws : List String) : String := " ".intercalate ws

def IsWord (w : String) : Prop := ' ' ∉ w.toList

instance (w : String) : Decidable (IsWord w) := inferInstanceAs (Decidable (_ ∉ _))

theorem words_unwords {ws : List String} (hne : ws ≠ []) (h : ∀ w ∈ ws, IsWord w) :
    words (unwords ws) = ws := by
  have hsplit : (unwords ws).toList.splitOn ' ' = ws.map String.toList := by
    rw [unwords, String.toList_intercalate]
    apply List.splitOn_intercalate ' '
    · intro l hl
      obtain ⟨w, hw, rfl⟩ := List.mem_map.mp hl
      exact h w hw
    · rw [ne_eq, List.map_eq_nil_iff]
      exact hne
  rw [words, hsplit, List.map_map]
  have hid : String.ofList ∘ String.toList = id := by
    funext w
    exact String.ofList_toList
  rw [hid, List.map_id]

theorem unwords_cons {ws : List String} (hne : ws ≠ []) (w : String) :
    unwords (w :: ws) = w ++ " " ++ unwords ws :=
  String.intercalate_cons_of_ne_nil hne

theorem unwords_append {vs ws : List String} (hv : vs ≠ []) (hw : ws ≠ []) :
    unwords (vs ++ ws) = unwords vs ++ " " ++ unwords ws :=
  String.intercalate_append_of_ne_nil hv hw

/-! ## The clauses of a line -/

def joined (sep : String) (clauses : List (List String)) : List String :=
  [sep].intercalate clauses

section Clauses

variable {sep : String} {clauses : List (List String)}

theorem joined_cons_cons (clause clause' : List String) :
    joined sep (clause :: clause' :: clauses) =
      clause ++ sep :: joined sep (clause' :: clauses) := by
  simp [joined]

theorem joined_ne_nil (hne : clauses ≠ []) (h : ∀ clause ∈ clauses, clause ≠ []) :
    joined sep clauses ≠ [] := by
  cases clauses with
  | nil => exact absurd rfl hne
  | cons clause clauses =>
      have hclause := h clause List.mem_cons_self
      cases clauses with
      | nil => simpa [joined] using hclause
      | cons clause' clauses =>
          rw [joined_cons_cons]
          exact List.append_ne_nil_of_left_ne_nil hclause _

/-- The text of the clauses has the separating word between their texts. -/
theorem unwords_joined (hne : clauses ≠ []) (h : ∀ clause ∈ clauses, clause ≠ []) :
    unwords (joined sep clauses) =
      (" " ++ sep ++ " ").intercalate (clauses.map unwords) := by
  induction clauses with
  | nil => exact absurd rfl hne
  | cons clause clauses ih =>
      cases clauses with
      | nil => simp [joined]
      | cons clause' clauses =>
          have hrest : ∀ c ∈ clause' :: clauses, c ≠ [] :=
            fun c hc => h c (List.mem_cons_of_mem _ hc)
          have hnext := ih (List.cons_ne_nil _ _) hrest
          rw [joined_cons_cons, unwords_append (h clause List.mem_cons_self)
            (List.cons_ne_nil _ _), unwords_cons
            (joined_ne_nil (List.cons_ne_nil _ _) hrest), hnext, List.map_cons,
            List.map_cons, List.map_cons, String.intercalate_cons_cons]
          simp only [String.append_assoc]

theorem mem_joined {w : String} (h : w ∈ joined sep clauses) :
    w = sep ∨ ∃ clause ∈ clauses, w ∈ clause := by
  induction clauses with
  | nil => cases h
  | cons clause clauses ih =>
      cases clauses with
      | nil => exact Or.inr ⟨clause, List.mem_cons_self, by simpa [joined] using h⟩
      | cons clause' clauses =>
          rw [joined_cons_cons] at h
          rcases List.mem_append.mp h with h | h
          · exact Or.inr ⟨clause, List.mem_cons_self, h⟩
          · rcases List.mem_cons.mp h with rfl | h
            · exact Or.inl rfl
            · rcases ih h with rfl | ⟨c, hc, hw⟩
              · exact Or.inl rfl
              · exact Or.inr ⟨c, List.mem_cons_of_mem _ hc, hw⟩

theorem splitOn_joined (hne : clauses ≠ []) (h : ∀ clause ∈ clauses, sep ∉ clause) :
    (joined sep clauses).splitOn sep = clauses :=
  List.splitOn_intercalate sep h hne

end Clauses

/-! ## Formats -/

/-- A format of clauses: what is written is read back, and the separating word is
in no clause. -/
structure Format (α : Type*) (sep : String) where
  write : α → List String
  read : List String → Option α
  read_write : ∀ a, read (write a) = some a
  write_ne_nil : ∀ a, write a ≠ []
  isWord : ∀ a, ∀ w ∈ write a, IsWord w
  sep_not_mem : ∀ a, sep ∉ write a

namespace Format

variable {α : Type*} {sep : String} (format : Format α sep)

def text (a : α) : String := unwords (format.write a)

def readAll (ws : List String) : Option (List α) := (ws.splitOn sep).mapM format.read

theorem write_clauses (as : List α) :
    ∀ clause ∈ as.map format.write, clause ≠ [] ∧ sep ∉ clause ∧
      ∀ w ∈ clause, IsWord w := by
  intro clause hclause
  obtain ⟨a, -, rfl⟩ := List.mem_map.mp hclause
  exact ⟨format.write_ne_nil a, format.sep_not_mem a, format.isWord a⟩

theorem readAll_joined {as : List α} (hne : as ≠ []) :
    format.readAll (joined sep (as.map format.write)) = some as := by
  have hclauses : as.map format.write ≠ [] := by
    rw [ne_eq, List.map_eq_nil_iff]
    exact hne
  rw [readAll, splitOn_joined hclauses fun clause h =>
    (format.write_clauses as clause h).2.1, List.mapM_map]
  have hread : format.read ∘ format.write = fun a => pure a := by
    funext a
    exact format.read_write a
  rw [hread, List.mapM_pure, List.map_id']
  rfl

theorem words_line {w : String} (hw : IsWord w) (hsep : IsWord sep) {as : List α}
    (hne : as ≠ []) :
    words (w ++ " " ++ (" " ++ sep ++ " ").intercalate (as.map format.text)) =
      w :: joined sep (as.map format.write) := by
  have hclauses : as.map format.write ≠ [] := by
    rw [ne_eq, List.map_eq_nil_iff]
    exact hne
  have hnonempty : ∀ clause ∈ as.map format.write, clause ≠ [] := fun clause h =>
    (format.write_clauses as clause h).1
  have htext : as.map format.text = (as.map format.write).map unwords := by
    rw [List.map_map]
    rfl
  rw [htext, ← unwords_joined hclauses hnonempty,
    ← unwords_cons (joined_ne_nil hclauses hnonempty)]
  apply words_unwords (List.cons_ne_nil _ _)
  intro v hv
  rcases List.mem_cons.mp hv with rfl | hv
  · exact hw
  · rcases mem_joined hv with rfl | ⟨clause, hclause, hv⟩
    · exact hsep
    · exact (format.write_clauses as clause hclause).2.2 v hv

end Format

end Words

end Library
