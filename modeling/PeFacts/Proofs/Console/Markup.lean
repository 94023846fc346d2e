import PeFacts.Console.Markup

/-!
# Active tags

A tag is `Active` in a text if an even number of backslashes stands directly before its bracket, and
a text without active tags is `Quiet`: it is shown as it is. `quiet_escape` says that every text is
quiet once it is escaped. Going through a text, it is enough to carry the number of backslashes
directly before (`QuietAfter`), and escaping goes through it in the same way.
-/

namespace PeFacts.Markup

/-- What stands between the brackets of a tag. -/
structure IsTag (tag : List Char) : Prop where
  start : ∃ c rest, tag = c :: rest ∧ isTagStart c
  inside : '[' ∉ tag ∧ ']' ∉ tag

/-- How many backslashes stand at the end. -/
def backslashes (cs : List Char) : Nat := (cs.reverse.takeWhile (· == '\\')).length

/-- The tag stands in the text in brackets, behind an even number of backslashes. -/
structure Active (text tag : String) : Prop where
  shaped : IsTag tag.toList
  stands : ∃ before after, text.toList = before ++ '[' :: (tag.toList ++ ']' :: after) ∧
    backslashes before % 2 = 0

/-- No tag is active in the text. -/
def Quiet (text : String) : Prop := ∀ tag, ¬ Active text tag

/-- A text without an opening bracket. -/
def Unbracketed (text : String) : Prop := '[' ∉ text.toList

theorem Unbracketed.quiet {text : String} (h : Unbracketed text) : Quiet text := by
  rintro tag ⟨-, before, after, split, -⟩
  refine h ?_
  rw [split]
  simp

/-! ## Going through a text -/

/-- No tag is active in characters that stand behind `run` backslashes. -/
def QuietAfter (run : Nat) : List Char → Prop
  | [] => True
  | c :: rest =>
    if c = '\\' then QuietAfter (run + 1) rest
    else (c = '[' → opensTag rest → run % 2 = 1) ∧ QuietAfter 0 rest

theorem backslashes_concat (cs : List Char) (c : Char) :
    backslashes (cs ++ [c]) = if c = '\\' then backslashes cs + 1 else 0 := by
  by_cases h : c = '\\' <;> simp [backslashes, h]

/-- A tag in brackets begins as a tag does. -/
theorem opensTag_of_isTag {tag : List Char} (h : IsTag tag) (after : List Char) :
    opensTag (tag ++ ']' :: after) = true := by
  obtain ⟨c, rest, rfl, start⟩ := h.start
  have inside : ∀ d ∈ rest, (d != '[') = true := by
    intro d there
    rw [bne_iff_ne]
    rintro rfl
    exact h.inside.1 (List.mem_cons_of_mem c there)
  rw [List.cons_append, opensTag, start, Bool.true_and, List.takeWhile_append_of_pos inside]
  simp

theorem QuietAfter.odd {before tag after : List Char} (h : IsTag tag) (front : List Char)
    (quiet : QuietAfter (backslashes front) (before ++ '[' :: (tag ++ ']' :: after))) :
    backslashes (front ++ before) % 2 = 1 := by
  induction before generalizing front with
  | nil =>
    rw [List.append_nil]
    rw [List.nil_append, QuietAfter, if_neg (by decide)] at quiet
    exact quiet.1 rfl (opensTag_of_isTag h after)
  | cons c before ih =>
    have step := ih (front ++ [c])
    rw [List.append_assoc, List.singleton_append] at step
    apply step
    rw [List.cons_append, QuietAfter] at quiet
    rw [backslashes_concat]
    split at quiet
    next slash => rwa [if_pos slash]
    next other =>
      rw [if_neg other]
      exact quiet.2

theorem quiet_of_quietAfter {text : String} (h : QuietAfter 0 text.toList) : Quiet text := by
  rintro tag ⟨shaped, before, after, split, even⟩
  rw [split] at h
  have odd := QuietAfter.odd shaped [] h
  rw [List.nil_append] at odd
  omega

/-! ## Escaping -/

/-- A character at the end that is no bracket makes no difference to what begins a tag. -/
theorem opensTag_concat_backslash (cs : List Char) : opensTag (cs ++ ['\\']) = opensTag cs := by
  cases cs with
  | nil => rfl
  | cons c rest =>
    have closes (rest : List Char) : ((rest ++ ['\\']).takeWhile (· != '[')).contains ']' =
        (rest.takeWhile (· != '[')).contains ']' := by
      induction rest with
      | nil => rfl
      | cons d rest ih =>
        rw [List.cons_append, List.takeWhile_cons, List.takeWhile_cons]
        split
        · rw [List.contains_cons, List.contains_cons, ih]
        · rfl
    rw [List.cons_append, opensTag, opensTag, closes]

/-- Escaping changes what stands behind a bracket only from the next one on. -/
theorem closes_escapeFrom (run : Nat) (cs : List Char) :
    ((escapeFrom run cs).takeWhile (· != '[')).contains ']' =
      (cs.takeWhile (· != '[')).contains ']' := by
  induction cs generalizing run with
  | nil => rfl
  | cons c rest ih =>
    have kept (run : Nat) : ((c :: escapeFrom run rest).takeWhile (· != '[')).contains ']' =
        ((c :: rest).takeWhile (· != '[')).contains ']' := by
      rw [List.takeWhile_cons, List.takeWhile_cons]
      split
      · rw [List.contains_cons, List.contains_cons, ih]
      · rfl
    rw [escapeFrom]
    split
    · exact kept (run + 1)
    · split
      next tag =>
        obtain rfl : c = '[' := by simpa using (Bool.and_eq_true_iff.1 tag).1
        have slashes : ∀ d ∈ List.replicate (run + 1) '\\', (d != '[') = true := by
          simp [List.mem_replicate]
        rw [List.takeWhile_append_of_pos slashes]
        simp [List.mem_replicate]
      next => exact kept 0

/-- What is escaped begins a tag when it did before. -/
theorem opensTag_escapeFrom (cs : List Char) : opensTag (escapeFrom 0 cs) = opensTag cs := by
  cases cs with
  | nil => rfl
  | cons c rest =>
    rw [escapeFrom]
    split
    next slash =>
      subst slash
      rfl
    next =>
      split
      next tag =>
        obtain rfl : c = '[' := by simpa using (Bool.and_eq_true_iff.1 tag).1
        rfl
      next => rw [opensTag, opensTag, closes_escapeFrom]

theorem quietAfter_replicate {run n : Nat} {cs : List Char} :
    QuietAfter run (List.replicate n '\\' ++ cs) ↔ QuietAfter (run + n) cs := by
  induction n generalizing run with
  | zero => rfl
  | succ n ih =>
    rw [List.replicate_succ, List.cons_append, QuietAfter, if_pos rfl, ih, Nat.add_assoc,
      Nat.add_comm 1 n]

/-- The backslashes before a tag are doubled and one more is put there, so their number is odd. -/
theorem quietAfter_escapeFrom (run : Nat) (cs : List Char) :
    QuietAfter run (escapeFrom run cs) := by
  induction cs generalizing run with
  | nil => exact trivial
  | cons c rest ih =>
    rw [escapeFrom]
    split
    next slash =>
      rw [QuietAfter, if_pos slash]
      exact ih (run + 1)
    next other =>
      split
      next tag =>
        rw [quietAfter_replicate, QuietAfter, if_neg other]
        exact ⟨fun _ _ => by omega, ih 0⟩
      next plain =>
        rw [QuietAfter, if_neg other, opensTag_escapeFrom]
        refine ⟨fun bracket opens => absurd ?_ plain, ih 0⟩
        simp [bracket, opens]

theorem QuietAfter.concat_backslash {run : Nat} {cs : List Char} (h : QuietAfter run cs) :
    QuietAfter run (cs ++ ['\\']) := by
  induction cs generalizing run with
  | nil => exact trivial
  | cons c rest ih =>
    rw [List.cons_append, QuietAfter]
    rw [QuietAfter] at h
    split at h
    next slash =>
      rw [if_pos slash]
      exact ih h
    next other =>
      rw [if_neg other, opensTag_concat_backslash]
      exact ⟨h.1, ih h.2⟩

theorem QuietAfter.closeEnd {run : Nat} {cs : List Char} (h : QuietAfter run cs) :
    QuietAfter run (closeEnd cs) := by
  unfold Markup.closeEnd
  split
  · exact h
  · exact h.concat_backslash
  · exact h

/-- Whatever a text holds, no tag is active in it once it is escaped. -/
theorem quiet_escape (text : String) : Quiet (escape text) := by
  apply quiet_of_quietAfter
  rw [escape, String.toList_ofList]
  exact (quietAfter_escapeFrom 0 text.toList).closeEnd

end PeFacts.Markup
