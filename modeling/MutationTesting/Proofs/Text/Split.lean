import MutationTesting.Text.Split

/-!
# Pieces of a text

A separator between two texts separates their pieces, and no piece holds one.  Joined texts consist of
their characters and those of the separators.
-/

namespace MutationTesting.Text

/-- The pieces of two texts with a separator between them are the pieces of both. -/
theorem splitAt_append (separator : Char) (left right : List Char) :
    splitAt separator (left ++ separator :: right) =
      splitAt separator left ++ splitAt separator right := by
  induction left with
  | nil => simp [splitAt]
  | cons c rest ih =>
      rw [List.cons_append, splitAt, splitAt, ih]
      by_cases hc : c = separator
      · rw [if_pos hc, if_pos hc, List.cons_append]
      · rw [if_neg hc, if_neg hc]
        cases hpieces : splitAt separator rest with
        | nil => exact absurd hpieces (splitAt_ne_nil separator rest)
        | cons first others => rfl

theorem splitAt_of_not_mem {separator : Char} {text : List Char} (htext : separator ∉ text) :
    splitAt separator text = [text] := by
  induction text with
  | nil => rfl
  | cons c rest ih =>
      rw [List.mem_cons, not_or] at htext
      rw [splitAt, if_neg (Ne.symm htext.1), ih htext.2]

theorem not_mem_of_mem_splitAt {separator : Char} {text piece : List Char}
    (hpiece : piece ∈ splitAt separator text) : separator ∉ piece := by
  induction text generalizing piece with
  | nil =>
      rw [splitAt, List.mem_singleton] at hpiece
      simp [hpiece]
  | cons c rest ih =>
      rw [splitAt] at hpiece
      split at hpiece
      next =>
          rcases List.mem_cons.mp hpiece with rfl | hpiece
          · simp
          · exact ih hpiece
      next hc =>
          cases hrest : splitAt separator rest with
          | nil => exact absurd hrest (splitAt_ne_nil separator rest)
          | cons first others =>
              rw [hrest] at hpiece ih
              rcases List.mem_cons.mp hpiece with rfl | hpiece
              · rw [List.mem_cons, not_or]
                exact ⟨Ne.symm hc, ih List.mem_cons_self⟩
              · exact ih (List.mem_cons_of_mem first hpiece)

/-- A piece of a text has characters of that text only. -/
theorem mem_of_mem_splitAt {separator c : Char} {text piece : List Char}
    (hpiece : piece ∈ splitAt separator text) (hc : c ∈ piece) : c ∈ text := by
  induction text generalizing piece with
  | nil =>
      rw [splitAt, List.mem_singleton] at hpiece
      rwa [hpiece] at hc
  | cons first rest ih =>
      rw [splitAt] at hpiece
      split at hpiece
      next =>
          rcases List.mem_cons.mp hpiece with rfl | hlater
          · cases hc
          · exact List.mem_cons_of_mem first (ih hlater hc)
      next =>
          cases hrest : splitAt separator rest with
          | nil => exact absurd hrest (splitAt_ne_nil separator rest)
          | cons piece others =>
              rw [hrest] at hpiece ih
              rcases List.mem_cons.mp hpiece with rfl | hlater
              · rcases List.mem_cons.mp hc with rfl | hc
                · exact List.mem_cons_self
                · exact List.mem_cons_of_mem first (ih List.mem_cons_self hc)
              · exact List.mem_cons_of_mem first (ih (List.mem_cons_of_mem piece hlater) hc)

/-- A text without separators makes the last piece longer. -/
theorem splitAt_append_of_not_mem {separator : Char} {left right last : List Char}
    {front : List (List Char)} (hright : separator ∉ right)
    (hleft : splitAt separator left = front ++ [last]) :
    splitAt separator (left ++ right) = front ++ [last ++ right] := by
  induction left generalizing front last with
  | nil =>
      cases front with
      | nil =>
          cases hleft
          exact splitAt_of_not_mem hright
      | cons piece others => simp [splitAt] at hleft
  | cons c rest ih =>
      obtain ⟨before, final, hrest⟩ :=
        (List.eq_nil_or_concat (splitAt separator rest)).resolve_left (splitAt_ne_nil _ _)
      rw [List.concat_eq_append] at hrest
      have hlonger := ih hrest
      rw [List.cons_append, splitAt, hlonger]
      rw [splitAt, hrest] at hleft
      by_cases hc : c = separator
      · rw [if_pos hc, ← List.cons_append] at hleft ⊢
        obtain ⟨rfl, hfinal⟩ := List.append_inj' hleft rfl
        cases hfinal
        rfl
      · rw [if_neg hc] at hleft ⊢
        cases before with
        | nil =>
            have hsame : [] ++ [c :: final] = front ++ [last] := hleft
            obtain ⟨rfl, hfinal⟩ := List.append_inj' hsame rfl
            cases hfinal
            rfl
        | cons piece others =>
            have hsame : ((c :: piece) :: others) ++ [final] = front ++ [last] := hleft
            obtain ⟨rfl, hfinal⟩ := List.append_inj' hsame rfl
            cases hfinal
            rfl

theorem length_splitAt (separator : Char) (text : List Char) :
    (splitAt separator text).length = text.count separator + 1 := by
  induction text with
  | nil => rfl
  | cons c rest ih =>
      rw [splitAt]
      by_cases hc : c = separator
      · rw [if_pos hc, List.length_cons, ih, hc, List.count_cons_self]
      · rw [if_neg hc, List.count_cons_of_ne hc, ← ih]
        cases hpieces : splitAt separator rest with
        | nil => exact absurd hpieces (splitAt_ne_nil separator rest)
        | cons first others => rfl

section Pieces

variable {separator : Char}

theorem length_pieces (separator : Char) (text : String) :
    (pieces separator text).length = text.toList.count separator + 1 := by
  rw [pieces, List.length_map, length_splitAt]

theorem mem_of_mem_pieces {c : Char} {text piece : String}
    (hpiece : piece ∈ pieces separator text) (hc : c ∈ piece.toList) : c ∈ text.toList := by
  obtain ⟨chars, hchars, rfl⟩ := List.mem_map.mp hpiece
  rw [String.toList_ofList] at hc
  exact mem_of_mem_splitAt hchars hc

theorem pieces_of_not_mem {text : String} (htext : separator ∉ text.toList) :
    pieces separator text = [text] := by
  rw [pieces, splitAt_of_not_mem htext, List.map_singleton, String.ofList_toList]

theorem pieces_append_of_not_mem {left right last : String} {front : List String}
    (hright : separator ∉ right.toList) (hleft : pieces separator left = front ++ [last]) :
    pieces separator (left ++ right) = front ++ [last ++ right] := by
  obtain ⟨before, final, hpieces⟩ :=
    (List.eq_nil_or_concat (splitAt separator left.toList)).resolve_left (splitAt_ne_nil _ _)
  rw [List.concat_eq_append] at hpieces
  rw [pieces, hpieces, List.map_append, List.map_singleton] at hleft
  obtain ⟨rfl, hfinal⟩ := List.append_inj' hleft rfl
  rw [List.singleton_inj] at hfinal
  subst hfinal
  rw [pieces, String.toList_append, splitAt_append_of_not_mem hright hpieces, List.map_append,
    List.map_singleton, String.ofList_append, String.ofList_toList]

theorem pieces_append (separator : Char) (left right : String) :
    pieces separator (left ++ String.singleton separator ++ right) =
      pieces separator left ++ pieces separator right := by
  have htext : (left ++ String.singleton separator ++ right).toList =
      left.toList ++ separator :: right.toList := by simp
  rw [pieces, htext, splitAt_append, List.map_append]
  rfl

theorem pieces_intercalate {texts : List String} (hnonempty : texts ≠ [])
    (htexts : ∀ text ∈ texts, separator ∉ text.toList) :
    pieces separator (String.intercalate (String.singleton separator) texts) = texts := by
  induction texts with
  | nil => exact absurd rfl hnonempty
  | cons first rest ih =>
      have hfirst := pieces_of_not_mem (htexts first List.mem_cons_self)
      by_cases hrest : rest = []
      · rw [hrest, String.intercalate_singleton, hfirst]
      · rw [String.intercalate_cons_of_ne_nil hrest, pieces_append, hfirst,
          ih hrest fun text htext => htexts text (List.mem_cons_of_mem first htext)]
        rfl

end Pieces

/-- Joined texts begin with the first of them. -/
theorem exists_intercalate_cons (separator first : String) (rest : List String) :
    ∃ others, (String.intercalate separator (first :: rest)).toList = first.toList ++ others := by
  by_cases hrest : rest = []
  · exact ⟨[], by simp [hrest]⟩
  · refine ⟨separator.toList ++ (String.intercalate separator rest).toList, ?_⟩
    rw [String.intercalate_cons_of_ne_nil hrest, String.toList_append, String.toList_append,
      List.append_assoc]

/-- Joined texts end with the last of them, after what the others give. -/
theorem exists_intercalate_concat (separator : String) (texts : List String) :
    ∃ head, ∀ last, String.intercalate separator (texts ++ [last]) = head ++ last := by
  by_cases htexts : texts = []
  · exact ⟨"", fun last => by rw [htexts, List.nil_append, String.intercalate_singleton,
      String.empty_append]⟩
  · refine ⟨String.intercalate separator texts ++ separator, fun last => ?_⟩
    rw [String.intercalate_append_of_ne_nil htexts (List.cons_ne_nil last []),
      String.intercalate_singleton]

/-- A character of joined texts is one of a text or of a separator. -/
theorem mem_toList_intercalate {separator : String} {texts : List String} {c : Char}
    (hc : c ∈ (String.intercalate separator texts).toList) :
    c ∈ separator.toList ∨ ∃ text ∈ texts, c ∈ text.toList := by
  induction texts with
  | nil => simp at hc
  | cons first rest ih =>
      by_cases hrest : rest = []
      · subst hrest
        rw [String.intercalate_singleton] at hc
        exact Or.inr ⟨first, List.mem_cons_self, hc⟩
      · rw [String.intercalate_cons_of_ne_nil hrest, String.toList_append, String.toList_append,
          List.mem_append, List.mem_append] at hc
        rcases hc with (hfirst | hseparator) | hlater
        · exact Or.inr ⟨first, List.mem_cons_self, hfirst⟩
        · exact Or.inl hseparator
        · rcases ih hlater with hseparator | ⟨text, htext, hmem⟩
          · exact Or.inl hseparator
          · exact Or.inr ⟨text, List.mem_cons_of_mem first htext, hmem⟩

end MutationTesting.Text
