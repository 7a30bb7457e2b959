import Mathlib.Data.List.Infix
import Mathlib.Data.List.TakeWhile
import MutationTesting.Dependencies.Map

/-!
# The name at the beginning of a label

What remains of a label without the blanks at its ends is the one part of it that has blanks only
around it and does not begin or end with one.

A capitalised name consists of parts with single dots between them.  Reading as many characters as
possible for each part, and as many parts as possible, finds the longest beginning of a text that is
such a name.  What a part leaves over begins with a character of no part, so no other division into
parts gets further.
-/

namespace MutationTesting

namespace Text

/-- Whether a text is what remains of another one without the blanks at its ends. -/
structure IsStripped (text whole : List Char) : Prop where
  between : ∃ left right, whole = left ++ (text ++ right) ∧ (∀ c ∈ left, isBlank c = true) ∧
    ∀ c ∈ right, isBlank c = true
  first : ∀ c, text.head? = some c → isBlank c = false
  last : ∀ c, text.getLast? = some c → isBlank c = false

theorem isBlank_of_mem_takeWhile {text : List Char} {c : Char} (hc : c ∈ text.takeWhile isBlank) :
    isBlank c = true :=
  List.all_eq_true.mp List.all_takeWhile c hc

theorem not_isBlank_of_head?_dropWhile {text : List Char} {c : Char}
    (hc : (text.dropWhile isBlank).head? = some c) : isBlank c = false := by
  have hnot := List.head?_dropWhile_not isBlank text
  rwa [hc] at hnot

theorem isStripped_strip (whole : List Char) : IsStripped (strip whole) whole := by
  let inner := whole.dropWhile isBlank
  let right := (inner.reverse.takeWhile isBlank).reverse
  have hinner : strip whole ++ right = whole.dropWhile isBlank := by
    have hsplit : inner.reverse.takeWhile isBlank ++ inner.reverse.dropWhile isBlank =
        inner.reverse := List.takeWhile_append_dropWhile
    rw [strip, ← List.reverse_append, hsplit, List.reverse_reverse]
  constructor
  · have hwhole : whole = whole.takeWhile isBlank ++ (strip whole ++ right) := by
      rw [hinner, List.takeWhile_append_dropWhile]
    exact ⟨_, right, hwhole, fun c => isBlank_of_mem_takeWhile,
      fun c hc => isBlank_of_mem_takeWhile (List.mem_reverse.mp hc)⟩
  · intro c hc
    have hhead : (whole.dropWhile isBlank).head? = some c := by
      rw [← hinner, List.head?_append, hc, Option.some_or]
    exact not_isBlank_of_head?_dropWhile hhead
  · intro c hc
    rw [strip, List.getLast?_reverse] at hc
    exact not_isBlank_of_head?_dropWhile hc

/-- There is one such part only. -/
theorem IsStripped.eq_strip {text whole : List Char} (hstripped : IsStripped text whole) :
    text = strip whole := by
  obtain ⟨left, right, rfl, hleft, hright⟩ := hstripped.between
  rw [strip, List.dropWhile_append_of_pos hleft]
  cases htext : text with
  | nil =>
      have hnone : right.dropWhile isBlank = [] := List.dropWhile_eq_nil_iff.mpr hright
      rw [List.nil_append, hnone]
      rfl
  | cons first rest =>
      have hfirst : isBlank first = false := hstripped.first first (by rw [htext]; rfl)
      rw [List.cons_append, List.dropWhile_cons_of_neg (by simp [hfirst]), ← List.cons_append,
        ← htext, List.reverse_append,
        List.dropWhile_append_of_pos fun c hc => hright c (List.mem_reverse.mp hc)]
      cases hback : text.reverse with
      | nil => simp [htext] at hback
      | cons final others =>
          have hfinal : isBlank final = false := by
            apply hstripped.last
            rw [List.getLast?_eq_head?_reverse, hback]
            rfl
          rw [List.dropWhile_cons_of_neg (by simp [hfinal]), ← hback, List.reverse_reverse]

end Text

namespace Dependencies

open MutationTesting.Text

/-- A capital letter with letters, digits and underscores after it, all of them ASCII. -/
def IsCapitalized (part : List Char) : Prop :=
  ∃ first rest, part = first :: rest ∧ isAsciiUpper first = true ∧ ∀ c ∈ rest, isAsciiWord c = true

/-- Capitalised parts, each after a dot. -/
inductive AreFurtherParts : List Char → Prop
  | none : AreFurtherParts []
  | part {part more : List Char} (hpart : IsCapitalized part) (hmore : AreFurtherParts more) :
      AreFurtherParts ('.' :: (part ++ more))

/-- Capitalised parts with single dots between them. -/
def IsCapitalizedName (name : List Char) : Prop :=
  ∃ part more, name = part ++ more ∧ IsCapitalized part ∧ AreFurtherParts more

/-- Whether a name is the longest capitalised one that a text begins with. -/
structure IsLongestName (text name : List Char) : Prop where
  is_name : IsCapitalizedName name
  at_start : name <+: text
  longest : ∀ other, IsCapitalizedName other → other <+: text → other.length ≤ name.length

theorem not_isAsciiWord_dot : isAsciiWord '.' = false := by decide

theorem isAsciiWord_of_isAsciiUpper {c : Char} (hc : isAsciiUpper c = true) :
    isAsciiWord c = true := by
  simp [isAsciiWord, isAsciiLetter, hc]

theorem IsCapitalized.isAsciiWord {part : List Char} (hpart : IsCapitalized part) :
    ∀ c ∈ part, isAsciiWord c = true := by
  obtain ⟨first, rest, rfl, hfirst, hrest⟩ := hpart
  intro c hc
  cases hc with
  | head => exact isAsciiWord_of_isAsciiUpper hfirst
  | tail _ hlater => exact hrest c hlater

theorem IsCapitalized.ne_nil {part : List Char} (hpart : IsCapitalized part) : part ≠ [] := by
  obtain ⟨first, rest, rfl, -, -⟩ := hpart
  exact List.cons_ne_nil first rest

/-- Whether a text goes on with a character that belongs to no part, if it goes on at all. -/
def StartsNoWord (rest : List Char) : Prop := ∀ c, rest.head? = some c → isAsciiWord c = false

theorem eq_nil_of_startsNoWord {word rest : List Char} (hword : ∀ c ∈ word, isAsciiWord c = true)
    (hstarts : word <+: rest) (hrest : StartsNoWord rest) : word = [] := by
  cases word with
  | nil => rfl
  | cons c word =>
      obtain ⟨after, rfl⟩ := hstarts
      have hnot := hrest c rfl
      rw [hword c List.mem_cons_self] at hnot
      cases hnot

/-- A part is read up to the first character that belongs to no part. -/
theorem capitalizedPart?_eq_some_iff {text part rest : List Char} :
    capitalizedPart? text = some (part, rest) ↔
      text = part ++ rest ∧ IsCapitalized part ∧ StartsNoWord rest := by
  constructor
  · intro hread
    cases text with
    | nil => cases hread
    | cons first text =>
        rw [capitalizedPart?] at hread
        split at hread
        next hfirst =>
            cases hread
            refine ⟨?_, ⟨first, _, rfl, hfirst, List.all_eq_true.mp List.all_takeWhile⟩, ?_⟩
            · rw [List.cons_append, List.takeWhile_append_dropWhile]
            · intro c hc
              have hnot := List.head?_dropWhile_not Text.isAsciiWord text
              rwa [hc] at hnot
        next => cases hread
  · rintro ⟨rfl, ⟨first, word, rfl, hfirst, hword⟩, hrest⟩
    have hstop : rest.takeWhile Text.isAsciiWord = [] ∧ rest.dropWhile Text.isAsciiWord = rest := by
      cases rest with
      | nil => exact ⟨rfl, rfl⟩
      | cons c rest => simp [hrest c rfl]
    rw [List.cons_append, capitalizedPart?, if_pos hfirst, List.takeWhile_append_of_pos hword,
      List.dropWhile_append_of_pos hword, hstop.1, hstop.2, List.append_nil]

theorem exists_capitalizedPart? {text part : List Char} (hpart : IsCapitalized part)
    (hstarts : part <+: text) : ∃ read rest, capitalizedPart? text = some (read, rest) := by
  obtain ⟨first, word, rfl, hfirst, -⟩ := hpart
  obtain ⟨after, rfl⟩ := hstarts
  exact ⟨_, _, by rw [List.cons_append, capitalizedPart?, if_pos hfirst]⟩

/-- A division into parts agrees with the longest first part, or it ends within that part. -/
theorem part_cases {part more read rest : List Char} (hpart : IsCapitalized part)
    (hmore : AreFurtherParts more) (hread : IsCapitalized read) (hrest : StartsNoWord rest)
    (hstarts : part ++ more <+: read ++ rest) :
    part = read ∧ more <+: rest ∨ part <+: read ∧ more = [] := by
  have hstart : part <+: read ++ rest := (List.prefix_append part more).trans hstarts
  cases List.prefix_or_prefix_of_prefix hstart (List.prefix_append read rest) with
  | inl hshorter =>
      obtain ⟨word, rfl⟩ := hshorter
      rw [List.append_assoc, List.prefix_append_right_inj] at hstarts
      cases hmore with
      | none => exact Or.inr ⟨List.prefix_append part word, rfl⟩
      | part hnext hlater =>
          -- the dot belongs to no part, so nothing of the longest part is left
          have hword : word = [] := by
            cases word with
            | nil => rfl
            | cons c word =>
                rw [List.cons_append, List.cons_prefix_cons] at hstarts
                have hdot := hread.isAsciiWord c (by simp)
                rw [← hstarts.1, not_isAsciiWord_dot] at hdot
                cases hdot
          subst hword
          exact Or.inl ⟨(List.append_nil part).symm, hstarts⟩
  | inr hlonger =>
      obtain ⟨word, rfl⟩ := hlonger
      rw [List.append_assoc, List.prefix_append_right_inj] at hstarts
      have hword : word = [] :=
        eq_nil_of_startsNoWord (fun c hc => hpart.isAsciiWord c (List.mem_append_right read hc))
          ((List.prefix_append word more).trans hstarts) hrest
      subst hword
      exact Or.inl ⟨List.append_nil read, hstarts⟩

theorem furtherParts_dot {bound : Nat} {rest part after : List Char}
    (hread : capitalizedPart? rest = some (part, after)) :
    furtherParts (bound + 1) ('.' :: rest) = '.' :: (part ++ furtherParts bound after) := by
  simp [furtherParts, hread]

theorem furtherParts_dot_none {bound : Nat} {rest : List Char}
    (hread : capitalizedPart? rest = none) : furtherParts (bound + 1) ('.' :: rest) = [] := by
  simp [furtherParts, hread]

theorem furtherParts_of_ne_dot {bound : Nat} {c : Char} {rest : List Char} (hc : c ≠ '.') :
    furtherParts (bound + 1) (c :: rest) = [] := by
  simp [furtherParts, hc]

theorem areFurtherParts_furtherParts (bound : Nat) (text : List Char) :
    AreFurtherParts (furtherParts bound text) := by
  induction bound generalizing text with
  | zero => exact .none
  | succ bound ih =>
      cases text with
      | nil => exact .none
      | cons c rest =>
          by_cases hc : c = '.'
          · subst hc
            cases hread : capitalizedPart? rest with
            | none =>
                rw [furtherParts_dot_none hread]
                exact .none
            | some read =>
                rw [furtherParts_dot hread]
                exact .part (capitalizedPart?_eq_some_iff.mp hread).2.1 (ih read.2)
          · rw [furtherParts_of_ne_dot hc]
            exact .none

theorem furtherParts_prefix (bound : Nat) (text : List Char) :
    furtherParts bound text <+: text := by
  induction bound generalizing text with
  | zero => exact List.nil_prefix
  | succ bound ih =>
      cases text with
      | nil => exact List.nil_prefix
      | cons c rest =>
          by_cases hc : c = '.'
          · subst hc
            cases hread : capitalizedPart? rest with
            | none =>
                rw [furtherParts_dot_none hread]
                exact List.nil_prefix
            | some read =>
                have hrest : rest = read.1 ++ read.2 := (capitalizedPart?_eq_some_iff.mp hread).1
                rw [furtherParts_dot hread, List.cons_prefix_cons, hrest,
                  List.prefix_append_right_inj]
                exact ⟨rfl, ih read.2⟩
          · rw [furtherParts_of_ne_dot hc]
            exact List.nil_prefix

/-- Whatever else could be read of further parts is the beginning of what is read of them. -/
theorem prefix_furtherParts {bound : Nat} {text other : List Char} (hbound : text.length ≤ bound)
    (hother : AreFurtherParts other) (hstarts : other <+: text) :
    other <+: furtherParts bound text := by
  induction bound generalizing text other with
  | zero =>
      obtain rfl : text = [] := List.eq_nil_of_length_eq_zero (Nat.le_zero.mp hbound)
      exact hstarts
  | succ bound ih =>
      cases hother with
      | none => exact List.nil_prefix
      | @part part more hpart hmore =>
          cases text with
          | nil => cases List.prefix_nil.mp hstarts
          | cons c rest =>
              rw [List.cons_prefix_cons] at hstarts
              obtain ⟨rfl, hstarts⟩ := hstarts
              have hstart : part <+: rest := (List.prefix_append part more).trans hstarts
              obtain ⟨read, after, hread⟩ := exists_capitalizedPart? hpart hstart
              obtain ⟨rfl, hcapital, hafter⟩ := capitalizedPart?_eq_some_iff.mp hread
              rw [furtherParts_dot hread, List.cons_prefix_cons]
              apply And.intro rfl
              cases part_cases hpart hmore hcapital hafter hstarts with
              | inl hsame =>
                  have hlength : after.length ≤ bound := by
                    rw [List.length_cons, List.length_append] at hbound
                    omega
                  rw [hsame.1, List.prefix_append_right_inj]
                  exact ih hlength hmore hsame.2
              | inr hends =>
                  rw [hends.2, List.append_nil]
                  exact hends.1.trans (List.prefix_append read _)

/-- Two names at the beginning of a text, neither shorter than any other, are the same. -/
theorem IsLongestName.unique {text name name' : List Char} (hname : IsLongestName text name)
    (hname' : IsLongestName text name') : name = name' := by
  have hle : name.length ≤ name'.length := hname'.longest name hname.is_name hname.at_start
  have hge : name'.length ≤ name.length := hname.longest name' hname'.is_name hname'.at_start
  exact (List.prefix_of_prefix_length_le hname.at_start hname'.at_start hle).eq_of_length
    (Nat.le_antisymm hle hge)

theorem isLongestName_of_leadingName? {text : List Char} {name : String}
    (hread : leadingName? text = some name) : IsLongestName text name.toList := by
  rw [leadingName?, Option.map_eq_some_iff] at hread
  obtain ⟨⟨part, rest⟩, hpart, rfl⟩ := hread
  obtain ⟨rfl, hcapital, hrest⟩ := capitalizedPart?_eq_some_iff.mp hpart
  rw [String.toList_ofList]
  constructor
  · exact ⟨part, _, rfl, hcapital, areFurtherParts_furtherParts rest.length rest⟩
  · rw [List.prefix_append_right_inj]
    exact furtherParts_prefix rest.length rest
  · rintro other ⟨first, more, rfl, hfirst, hmore⟩ hstarts
    apply List.IsPrefix.length_le
    cases part_cases hfirst hmore hcapital hrest hstarts with
    | inl hsame =>
        rw [hsame.1, List.prefix_append_right_inj]
        exact prefix_furtherParts (Nat.le_refl _) hmore hsame.2
    | inr hends =>
        rw [hends.2, List.append_nil]
        exact hends.1.trans (List.prefix_append part _)

theorem exists_leadingName? {text name : List Char} (hname : IsCapitalizedName name)
    (hstarts : name <+: text) : ∃ read, leadingName? text = some read := by
  obtain ⟨part, more, rfl, hpart, -⟩ := hname
  obtain ⟨read, rest, hread⟩ :=
    exists_capitalizedPart? hpart ((List.prefix_append part more).trans hstarts)
  exact ⟨_, by rw [leadingName?, hread]; rfl⟩

/-- The name read at the beginning of a text is the longest there. -/
theorem leadingName?_eq_some_iff {text : List Char} {name : String} :
    leadingName? text = some name ↔ IsLongestName text name.toList := by
  constructor
  · exact isLongestName_of_leadingName?
  · intro hname
    obtain ⟨read, hread⟩ := exists_leadingName? hname.is_name hname.at_start
    have hsame : read.toList = name.toList := (isLongestName_of_leadingName? hread).unique hname
    rw [hread, String.toList_inj.mp hsame]

/-- The last character of a part with more after it belongs to a part again. -/
theorem isAsciiWord_getLast?_append {part more : List Char}
    (hpart : ∀ c ∈ part, isAsciiWord c = true)
    (hmore : ∀ c, more.getLast? = some c → isAsciiWord c = true) (c : Char)
    (hc : (part ++ more).getLast? = some c) : isAsciiWord c = true := by
  rw [List.getLast?_append] at hc
  cases hlast : more.getLast? with
  | some last =>
      rw [hlast, Option.some_or] at hc
      exact hmore c (hlast.trans hc)
  | none =>
      rw [hlast, Option.none_or] at hc
      exact hpart c (List.mem_of_getLast? hc)

theorem AreFurtherParts.isAsciiWord_getLast? {more : List Char} (hmore : AreFurtherParts more) :
    ∀ c, more.getLast? = some c → isAsciiWord c = true := by
  induction hmore with
  | none => exact nofun
  | @part part more hpart hmore ih =>
      intro c hc
      apply isAsciiWord_getLast?_append hpart.isAsciiWord ih c
      rw [List.getLast?_cons_of_ne_nil] at hc
      · exact hc
      · exact List.append_ne_nil_of_left_ne_nil hpart.ne_nil more

theorem IsCapitalizedName.isAsciiWord_getLast? {name : List Char} (hname : IsCapitalizedName name) :
    ∀ c, name.getLast? = some c → isAsciiWord c = true := by
  obtain ⟨part, more, rfl, hpart, hmore⟩ := hname
  exact isAsciiWord_getLast?_append hpart.isAsciiWord hmore.isAsciiWord_getLast?

theorem isKnown_iff {known : Option (List String)} {module : String} :
    isKnown known module = true ↔ ∀ names, known = some names → module ∈ names := by
  cases known with
  | none => simp [isKnown]
  | some names => simp [isKnown]

theorem moduleOfLabel?_eq_some_iff {known : Option (List String)} {label module : String} :
    moduleOfLabel? known label = some module ↔
      ∃ text, IsStripped text label.toList ∧ IsLongestName text module.toList ∧
        ∀ names, known = some names → module ∈ names := by
  rw [moduleOfLabel?, Option.filter_eq_some_iff, leadingName?_eq_some_iff, isKnown_iff]
  constructor
  · intro ⟨hname, hknown⟩
    exact ⟨_, isStripped_strip label.toList, hname, hknown⟩
  · intro ⟨text, htext, hname, hknown⟩
    rw [← htext.eq_strip]
    exact ⟨hname, hknown⟩

theorem moduleOfLabel?_eq_none_iff {known : Option (List String)} {label : String} :
    moduleOfLabel? known label = none ↔
      ∀ text (module : String), IsStripped text label.toList → IsLongestName text module.toList →
        ∃ names, known = some names ∧ module ∉ names := by
  constructor
  · intro hnone text module htext hname
    by_contra hall
    have hknown : ∀ names, known = some names → module ∈ names := by
      intro names hnames
      by_contra hmissing
      exact hall ⟨names, hnames, hmissing⟩
    have hsome := moduleOfLabel?_eq_some_iff.mpr ⟨text, htext, hname, hknown⟩
    rw [hnone] at hsome
    cases hsome
  · intro hunknown
    cases hread : moduleOfLabel? known label with
    | none => rfl
    | some module =>
        obtain ⟨text, htext, hname, hknown⟩ := moduleOfLabel?_eq_some_iff.mp hread
        obtain ⟨names, hnames, hmissing⟩ := hunknown text module htext hname
        exact absurd (hknown names hnames) hmissing

theorem IsLongestName.not_isCapitalizedName_append {text name more : List Char}
    (hname : IsLongestName text name) (hmore : more ≠ []) (hstarts : name ++ more <+: text) :
    ¬ IsCapitalizedName (name ++ more) := by
  intro hlonger
  have hle := hname.longest _ hlonger hstarts
  rw [List.length_append] at hle
  exact hmore (List.eq_nil_of_length_eq_zero (by omega))

/-- A label names the longest capitalised name at its beginning, blanks around the label apart, if
that is a known module, and otherwise none.  Where it begins with any such name it has a longest
one, which does not end in a dot and which no more of the label continues. -/
theorem label_names_longest_prefix (known : Option (List String)) (label : String) :
    (∀ module, moduleOfLabel? known label = some module ↔
      ∃ text, IsStripped text label.toList ∧ IsLongestName text module.toList ∧
        ∀ names, known = some names → module ∈ names) ∧
    (moduleOfLabel? known label = none ↔
      ∀ text (module : String), IsStripped text label.toList → IsLongestName text module.toList →
        ∃ names, known = some names ∧ module ∉ names) ∧
    (∀ text, IsStripped text label.toList →
      ∀ name, IsCapitalizedName name → name <+: text →
        ∃ module : String, IsLongestName text module.toList) ∧
    ∀ module, moduleOfLabel? known label = some module →
      module.toList.getLast? ≠ some '.' ∧
      ∀ text more, IsStripped text label.toList → more ≠ [] → module.toList ++ more <+: text →
        ¬ IsCapitalizedName (module.toList ++ more) := by
  refine ⟨fun _ => moduleOfLabel?_eq_some_iff, moduleOfLabel?_eq_none_iff, ?_, ?_⟩
  · intro text htext name hname hstarts
    obtain ⟨module, hread⟩ := exists_leadingName? hname hstarts
    exact ⟨module, isLongestName_of_leadingName? hread⟩
  · intro module hread
    obtain ⟨text, htext, hname, -⟩ := moduleOfLabel?_eq_some_iff.mp hread
    constructor
    · intro hdot
      have hword := hname.is_name.isAsciiWord_getLast? '.' hdot
      rw [not_isAsciiWord_dot] at hword
      cases hword
    · intro text' more htext' hmore hstarts
      apply hname.not_isCapitalizedName_append hmore
      rwa [htext.eq_strip, ← htext'.eq_strip]

/-- A part that begins with a small letter ends the name before the dot in front of it. -/
example : moduleOfLabel? (some ["App", "App.Store2"]) " App.Store2.get puts back " =
    some "App.Store2" := by decide

end Dependencies

end MutationTesting
