import MutationTesting.Proofs.Failure
import MutationTesting.Settings.Toml.Document

/-!
# When a document has a number that is too long

Every reader leaves a suffix of the text it is given, so what it complains about stands in that text.
Only the reader of whole numbers in decimal complains about too many digits, and it has read them
one after the other.
-/

namespace MutationTesting.Settings.Toml

open MutationTesting.Text

/-- Whether a text has a run of digits, maybe with underscores among them, that is longer than a whole
number may be. -/
def HasLongNumber (cs : List Char) : Prop :=
  ∃ run, run <:+: cs ∧ (∀ c ∈ run, isAsciiDigit c = true ∨ c = '_') ∧
    Decimal.maxDigits < (run.filter isAsciiDigit).length

theorem HasLongNumber.of_suffix {cs rest : List Char} (hrest : HasLongNumber rest)
    (hsuffix : rest <:+ cs) : HasLongNumber cs := by
  obtain ⟨run, hrun, hdigits, hlong⟩ := hrest
  exact ⟨run, hrun.trans hsuffix.isInfix, hdigits, hlong⟩

/-- Whether a reader leaves a suffix of a text, and complains about a long number only if the text has
one. -/
structure ReadsFrom {β : Type} (left : β → List Char) (cs : List Char)
    (result : Except ReadError β) : Prop where
  suffix : ∀ b, result = .ok b → left b <:+ cs
  long : result = .error .longNumber → HasLongNumber cs

namespace ReadsFrom

variable {β γ : Type} {left : β → List Char} {left' : γ → List Char} {cs rest : List Char}

theorem ok {b : β} (hsuffix : left b <:+ cs) : ReadsFrom left cs (.ok b) := by
  constructor
  · rintro b' ⟨⟩
    exact hsuffix
  · exact fun h => nomatch h

theorem malformed : ReadsFrom left cs (.error .malformed) :=
  ⟨fun _ h => (nomatch h), fun h => nomatch h⟩

theorem mono {result : Except ReadError β} (hresult : ReadsFrom left rest result)
    (hsuffix : rest <:+ cs) : ReadsFrom left cs result :=
  ⟨fun b hb => (hresult.suffix b hb).trans hsuffix, fun hlong => (hresult.long hlong).of_suffix hsuffix⟩

theorem bind {first : Except ReadError β} {next : β → Except ReadError γ}
    (hfirst : ReadsFrom left cs first) (hnext : ∀ b, ReadsFrom left' (left b) (next b)) :
    ReadsFrom left' cs (first >>= next) := by
  constructor
  · intro result hresult
    obtain ⟨b, hb, hresult⟩ := bind_eq_ok_iff.mp hresult
    exact ((hnext b).suffix result hresult).trans (hfirst.suffix b hb)
  · intro hlong
    rcases bind_eq_error_iff.mp hlong with hlong | ⟨b, hb, hlong⟩
    · exact hfirst.long hlong
    · exact ((hnext b).long hlong).of_suffix (hfirst.suffix b hb)

theorem map {result : Except ReadError β} {f : β → γ} (hresult : ReadsFrom left cs result)
    (hf : ∀ b, left' (f b) <:+ left b) : ReadsFrom left' cs (result.map f) :=
  hresult.bind fun b => ok (hf b)

theorem ite {condition : Prop} [Decidable condition] {first second : Except ReadError β}
    (hfirst : ReadsFrom left cs first) (hsecond : ReadsFrom left cs second) :
    ReadsFrom left cs (if condition then first else second) := by
  split
  · exact hfirst
  · exact hsecond

theorem ofOption {x : Option β} (hx : ∀ b ∈ x, left b <:+ cs) :
    ReadsFrom left cs (Toml.ofOption x) := by
  cases x with
  | none => exact malformed
  | some b => exact ok (hx b rfl)

end ReadsFrom

section Blanks

variable (cs : List Char)

/-- A change of what was read so far leaves the text as it is. -/
theorem reads_change (change : Option Entries) :
    ReadsFrom (fun _ => cs) cs (ofOption change) := .ofOption fun _ _ => List.suffix_rfl

theorem skipSpaces_suffix : skipSpaces cs <:+ cs := List.dropWhile_suffix _

theorem reads_skipComment : ReadsFrom id cs (skipComment cs) := by
  unfold skipComment
  split
  next rest =>
      refine ReadsFrom.ite .malformed (.ok ?_)
      exact (List.dropWhile_suffix _).trans (List.suffix_cons _ _)
  next => exact .ok List.suffix_rfl

theorem reads_skipLines (inComment : Bool) : ReadsFrom id cs (skipLines inComment cs) := by
  induction cs generalizing inComment with
  | nil => cases inComment <;> exact .ok List.suffix_rfl
  | cons c rest ih =>
      have hlater : ∀ inComment, ReadsFrom id (c :: rest) (skipLines inComment rest) :=
        fun inComment => (ih inComment).mono (List.suffix_cons c rest)
      cases inComment with
      | true => exact .ite (hlater false) (.ite .malformed (hlater true))
      | false => exact .ite (hlater false) (.ite (hlater true) (.ok List.suffix_rfl))

theorem reads_expect (c : Char) : ReadsFrom id cs (expect c cs) := by
  cases cs with
  | nil => exact .malformed
  | cons d rest => exact .ite (.ok (List.suffix_cons d rest)) .malformed

end Blanks

section Strings

theorem reads_withFirst {cs : List Char} {c : Char} {step : Step (List Char)}
    (hstep : ReadsFrom Prod.snd cs step) : ReadsFrom Prod.snd cs (withFirst c step) :=
  hstep.map fun _ => List.suffix_rfl

theorem reads_withFirst? {cs : List Char} {c : Option Char} {step : Step (List Char)}
    (hstep : ReadsFrom Prod.snd cs step) : ReadsFrom Prod.snd cs (withFirst? c step) := by
  cases c with
  | none => exact .malformed
  | some c => exact reads_withFirst hstep

theorem reads_basicText (cs : List Char) : ReadsFrom Prod.snd cs (basicText cs) := by
  fun_induction basicText cs
  next => exact .malformed
  next rest => exact .ok (List.suffix_cons _ _)
  next a b c d rest ih =>
    exact reads_withFirst? (ih.mono (List.suffix_append ['\\', 'u', a, b, c, d] rest))
  next a b c d e f g h rest ih =>
      exact reads_withFirst? (ih.mono (List.suffix_append ['\\', 'U', a, b, c, d, e, f, g, h] rest))
  next c rest _ _ ih => exact reads_withFirst? (ih.mono (List.suffix_append ['\\', c] rest))
  next => exact .malformed
  next c rest _ _ _ _ _ ih => exact reads_withFirst (ih.mono (List.suffix_cons c rest))

theorem reads_literalText (cs : List Char) : ReadsFrom Prod.snd cs (literalText cs) := by
  unfold literalText
  dsimp only
  split
  next => exact .malformed
  next rest hrest =>
      have hquote := List.dropWhile_suffix (l := cs) (· != '\'')
      rw [hrest] at hquote
      exact .ite .malformed (.ok ((List.suffix_cons _ rest).trans hquote))

/-- By recursion on the text: whatever mode the reader is in, it goes on with a suffix of what follows
the first character. -/
theorem reads_basicLines (mode : BlankMode) (cs : List Char) :
    ReadsFrom Prod.snd cs (basicLines mode cs) := by
  cases cs with
  | nil => exact .malformed
  | cons c rest =>
      have hlater : ∀ mode after, after <:+ rest →
          ReadsFrom Prod.snd (c :: rest) (basicLines mode after) := fun mode after hafter =>
        have : after.length ≤ rest.length := hafter.length_le
        (reads_basicLines mode after).mono (hafter.trans (List.suffix_cons c rest))
      rw [basicLines.eq_def]
      dsimp only
      refine .ite ?blanks (.ite (hlater _ _ List.suffix_rfl) (.ite ?quote (.ite ?escape ?plain)))
      case blanks =>
        exact .ite (hlater _ _ List.suffix_rfl) (.ite (hlater _ _ List.suffix_rfl) .malformed)
      case quote =>
        split
        next after => exact .ok (List.suffix_append [c, '"', '"'] after)
        next => exact reads_withFirst (hlater _ _ List.suffix_rfl)
      case escape =>
        split
        next => exact hlater _ _ (List.suffix_cons _ _)
        next => exact hlater _ _ (List.suffix_cons _ _)
        next => exact hlater _ _ (List.suffix_cons _ _)
        next a b c d after =>
            exact reads_withFirst? (hlater _ _ (List.suffix_append ['u', a, b, c, d] after))
        next a b c d e f g h after =>
            exact reads_withFirst? (hlater _ _ (List.suffix_append ['U', a, b, c, d, e, f, g, h] after))
        next => exact reads_withFirst? (hlater _ _ (List.suffix_cons _ _))
        next => exact .malformed
      case plain => exact .ite .malformed (reads_withFirst (hlater _ _ List.suffix_rfl))
termination_by cs.length

theorem reads_literalLines (cs : List Char) : ReadsFrom Prod.snd cs (literalLines cs) := by
  fun_induction literalLines cs
  next => exact .malformed
  next rest => exact .ok (List.suffix_append ['\'', '\'', '\''] rest)
  next => exact .malformed
  next c rest _ _ ih => exact reads_withFirst (ih.mono (List.suffix_cons c rest))

theorem withLastQuotes_suffix (quote : Char) (text rest : List Char) :
    (withLastQuotes quote text rest).2 <:+ rest := by
  unfold withLastQuotes
  split
  next a b after =>
      split
      · exact List.suffix_append [a, b] after
      · split
        · exact List.suffix_cons a (b :: after)
        · exact List.suffix_rfl
  next a =>
      split
      · exact List.nil_suffix
      · exact List.suffix_rfl
  next => exact List.suffix_rfl

theorem dropFirstLineFeed_suffix (cs : List Char) : dropFirstLineFeed cs <:+ cs := by
  unfold dropFirstLineFeed
  split
  · exact List.suffix_cons _ _
  · exact List.suffix_rfl

theorem reads_string? {cs : List Char} {step : Step (List Char)} (hstep : string? cs = some step) :
    ReadsFrom Prod.snd cs step := by
  unfold string? at hstep
  split at hstep
  next rest =>
      cases hstep
      have hlines := (reads_basicLines .kept _).mono (dropFirstLineFeed_suffix rest)
      exact (hlines.mono (List.suffix_append ['"', '"', '"'] rest)).map
        fun _ => withLastQuotes_suffix _ _ _
  next rest _ =>
      cases hstep
      exact (reads_basicText rest).mono (List.suffix_cons _ rest)
  next rest =>
      cases hstep
      have hlines := (reads_literalLines _).mono (dropFirstLineFeed_suffix rest)
      exact (hlines.mono (List.suffix_append ['\'', '\'', '\''] rest)).map
        fun _ => withLastQuotes_suffix _ _ _
  next rest _ =>
      cases hstep
      exact (reads_literalText rest).mono (List.suffix_cons _ rest)
  next => cases hstep

theorem reads_keyPart (cs : List Char) : ReadsFrom Prod.snd cs (keyPart cs) := by
  unfold keyPart
  split
  next rest =>
      exact ((reads_basicText rest).mono (List.suffix_cons _ rest)).map fun _ => List.suffix_rfl
  next rest =>
      exact ((reads_literalText rest).mono (List.suffix_cons _ rest)).map fun _ => List.suffix_rfl
  next =>
      split
      · exact .malformed
      · exact .ok (List.dropWhile_suffix _)

theorem reads_keyPath (bound : Nat) (cs : List Char) : ReadsFrom Prod.snd cs (keyPath bound cs) := by
  induction bound generalizing cs with
  | zero => exact .malformed
  | succ bound ih =>
      refine ((reads_keyPart _).mono (skipSpaces_suffix cs)).bind fun (name, rest) => ?_
      dsimp only
      split
      next more hmore =>
          have hpoint := skipSpaces_suffix rest
          rw [hmore] at hpoint
          have hnames := (ih more).mono ((List.suffix_cons _ more).trans hpoint)
          exact hnames.bind fun (names, rest) => .ok List.suffix_rfl
      next => exact .ok (skipSpaces_suffix rest)

theorem reads_key (cs : List Char) : ReadsFrom Prod.snd cs (key cs) := reads_keyPath _ cs

end Strings

section Numbers

/-- How digits stand at the start of a text, before the rest of it: one after the other, apart from
underscores. -/
inductive DigitRun (isDigit : Char → Bool) : List Char → List Char → List Char → Prop
  | none (cs : List Char) : DigitRun isDigit cs [] cs
  | digit {c : Char} {cs digits rest : List Char} (hc : isDigit c = true)
      (hmore : DigitRun isDigit cs digits rest) : DigitRun isDigit (c :: cs) (c :: digits) rest
  | underscore {cs digits rest : List Char} (hmore : DigitRun isDigit cs digits rest) :
      DigitRun isDigit ('_' :: cs) digits rest

theorem DigitRun.suffix {isDigit : Char → Bool} {cs digits rest : List Char}
    (hrun : DigitRun isDigit cs digits rest) : rest <:+ cs := by
  induction hrun with
  | none => exact List.suffix_rfl
  | digit _ _ ih => exact ih.trans (List.suffix_cons _ _)
  | underscore _ ih => exact ih.trans (List.suffix_cons _ _)

theorem DigitRun.hasLongNumber {cs digits rest : List Char}
    (hrun : DigitRun isAsciiDigit cs digits rest) (hlong : Decimal.maxDigits < digits.length) :
    HasLongNumber cs := by
  have hall : ∃ run, cs = run ++ rest ∧ (∀ c ∈ run, isAsciiDigit c = true ∨ c = '_') ∧
      run.filter isAsciiDigit = digits := by
    clear hlong
    induction hrun with
    | none cs => exact ⟨[], rfl, List.forall_mem_nil _, rfl⟩
    | @digit c _ _ _ hc _ ih =>
        obtain ⟨run, rfl, hdigits, rfl⟩ := ih
        exact ⟨c :: run, rfl, List.forall_mem_cons.mpr ⟨.inl hc, hdigits⟩, List.filter_cons_of_pos hc⟩
    | underscore _ ih =>
        obtain ⟨run, rfl, hdigits, rfl⟩ := ih
        exact ⟨'_' :: run, rfl, List.forall_mem_cons.mpr ⟨.inr rfl, hdigits⟩, rfl⟩
  obtain ⟨run, rfl, hdigits, rfl⟩ := hall
  exact ⟨run, (List.prefix_append run rest).isInfix, hdigits, hlong⟩

theorem digitRun_moreDigits (isDigit : Char → Bool) (cs : List Char) :
    DigitRun isDigit cs (moreDigits isDigit cs).1 (moreDigits isDigit cs).2 := by
  fun_induction moreDigits isDigit cs
  next c rest hc digits left hmore ih =>
      rw [hmore] at ih
      exact .underscore (.digit hc ih)
  next => exact .none _
  next c rest _ hc digits left hmore ih =>
      rw [hmore] at ih
      exact .digit hc ih
  next => exact .none _
  next => exact .none _

theorem digitRun_of_digits? {isDigit : Char → Bool} {cs digits rest : List Char}
    (hdigits : digits? isDigit cs = some (digits, rest)) : DigitRun isDigit cs digits rest := by
  unfold digits? at hdigits
  split at hdigits
  next c more =>
      split at hdigits
      next hc =>
          cases hdigits
          exact .digit hc (digitRun_moreDigits isDigit more)
      next => cases hdigits
  next => cases hdigits

theorem digitRun_of_wholeDigits? {cs digits rest : List Char}
    (hdigits : wholeDigits? cs = some (digits, rest)) : DigitRun isAsciiDigit cs digits rest := by
  unfold wholeDigits? at hdigits
  split at hdigits
  next =>
      cases hdigits
      exact .digit (by decide) (.none _)
  next => exact digitRun_of_digits? hdigits

theorem sign_suffix (cs : List Char) : (sign cs).2 <:+ cs := by
  unfold sign
  split
  · exact List.suffix_cons _ _
  · exact List.suffix_cons _ _
  · exact List.suffix_rfl

theorem fraction_suffix (cs : List Char) : (fraction cs).2 <:+ cs := by
  unfold fraction
  split
  next more =>
      split
      next digits rest hdigits =>
        exact (digitRun_of_digits? hdigits).suffix.trans (List.suffix_cons _ _)
      next => exact List.suffix_rfl
  next => exact List.suffix_rfl

theorem exponent_suffix (cs : List Char) : (exponent cs).2 <:+ cs := by
  unfold exponent
  split
  next mark more =>
      split
      · dsimp only
        split
        next digits rest hdigits =>
            exact (digitRun_of_digits? hdigits).suffix.trans
              ((sign_suffix more).trans (List.suffix_cons _ _))
        next => exact List.suffix_rfl
      · exact List.suffix_rfl
  next => exact List.suffix_rfl

/-- A number is too long if its digits are. -/
theorem reads_decimal? {cs : List Char} {step : Step Value} (hstep : decimal? cs = some step) :
    ReadsFrom Prod.snd cs step := by
  unfold decimal? at hstep
  obtain ⟨⟨whole, rest⟩, hwhole, rfl⟩ := Option.map_eq_some_iff.mp hstep
  have hrun := digitRun_of_wholeDigits? hwhole
  have hrest := (exponent_suffix _).trans ((fraction_suffix rest).trans hrun.suffix)
  dsimp only
  refine ReadsFrom.mono ?_ (sign_suffix cs)
  split
  · split
    next hlong => exact ⟨fun _ h => (nomatch h), fun _ => hrun.hasLongNumber hlong⟩
    next => exact .ok hrest
  · exact .ok hrest

theorem suffix_of_based? {base : Nat} {cs rest : List Char} {v : Value}
    (hbased : based? base cs = some (v, rest)) : rest <:+ cs := by
  obtain ⟨⟨digits, left⟩, hdigits, hsame⟩ := Option.map_eq_some_iff.mp hbased
  cases hsame
  exact (digitRun_of_digits? hdigits).suffix

theorem reads_number? {cs : List Char} {step : Step Value} (hstep : number? cs = some step) :
    ReadsFrom Prod.snd cs step := by
  unfold number? at hstep
  dsimp only at hstep
  split at hstep
  next v hmarked =>
      cases hstep
      refine .ok ?_
      split at hmarked
      next rest => exact (suffix_of_based? hmarked).trans (List.suffix_append ['0', 'x'] rest)
      next rest => exact (suffix_of_based? hmarked).trans (List.suffix_append ['0', 'o'] rest)
      next rest => exact (suffix_of_based? hmarked).trans (List.suffix_append ['0', 'b'] rest)
      next => cases hmarked
  next => exact reads_decimal? hstep

theorem suffix_of_special? {cs : List Char} : ∀ found ∈ special? cs, found.2 <:+ cs := by
  intro found hfound
  unfold special? at hfound
  dsimp only at hfound
  split at hfound
  next rest hsign =>
      cases hfound
      have hletters := sign_suffix cs
      rw [hsign] at hletters
      exact (List.suffix_append ['i', 'n', 'f'] rest).trans hletters
  next rest hsign =>
      cases hfound
      have hletters := sign_suffix cs
      rw [hsign] at hletters
      exact (List.suffix_append ['n', 'a', 'n'] rest).trans hletters
  next => cases hfound

end Numbers

section Moments

theorem microseconds_suffix (cs : List Char) : (microseconds cs).2 <:+ cs := by
  unfold microseconds
  split
  next more =>
      split
      · exact List.suffix_rfl
      · exact (List.dropWhile_suffix _).trans (List.suffix_cons _ _)
  next => exact List.suffix_rfl

theorem suffix_of_time? {cs rest : List Char} {time : TimeOfDay}
    (htime : time? cs = some (time, rest)) : rest <:+ cs := by
  unfold time? at htime
  split at htime
  next a b c d e f more =>
      obtain ⟨hour, -, htime⟩ := Option.bind_eq_some_iff.mp htime
      obtain ⟨minute, -, htime⟩ := Option.bind_eq_some_iff.mp htime
      obtain ⟨second, -, htime⟩ := Option.bind_eq_some_iff.mp htime
      cases htime
      exact (microseconds_suffix more).trans (List.suffix_append [a, b, ':', c, d, ':', e, f] more)
  next => cases htime

theorem suffix_of_day? {cs rest : List Char} {day : CalendarDay}
    (hday : day? cs = some (day, rest)) : rest <:+ cs := by
  unfold day? at hday
  split at hday
  next a b c d e f g h more =>
      split at hday
      · obtain ⟨month, -, hday⟩ := Option.bind_eq_some_iff.mp hday
        obtain ⟨number, -, hday⟩ := Option.bind_eq_some_iff.mp hday
        cases hday
        exact List.suffix_append [a, b, c, d, '-', e, f, '-', g, h] rest
      · cases hday
  next => cases hday

theorem offset_suffix (cs : List Char) : (offset cs).2 <:+ cs := by
  unfold offset
  split
  · exact List.suffix_cons _ _
  · exact List.suffix_cons _ _
  next mark a b c d rest _ _ =>
      split
      · exact List.suffix_append [mark, a, b, ':', c, d] rest
      · exact List.suffix_rfl
  next => exact List.suffix_rfl

theorem suffix_of_timeAfterDay? {cs rest : List Char} {time : TimeOfDay}
    (htime : timeAfterDay? cs = some (time, rest)) : rest <:+ cs := by
  unfold timeAfterDay? at htime
  split at htime
  · split at htime
    · exact (suffix_of_time? htime).trans (List.suffix_cons _ _)
    · cases htime
  · cases htime

theorem reads_moment? {cs : List Char} {step : Step Value} (hstep : moment? cs = some step) :
    ReadsFrom Prod.snd cs step := by
  unfold moment? at hstep
  split at hstep
  next day rest hday =>
      cases hstep
      refine ReadsFrom.ite (.ok ?_) .malformed
      have hafter := suffix_of_day? hday
      dsimp only
      split
      next time left htime =>
          exact (offset_suffix left).trans ((suffix_of_timeAfterDay? htime).trans hafter)
      next => exact hafter
  next =>
      obtain ⟨⟨time, rest⟩, htime, rfl⟩ := Option.map_eq_some_iff.mp hstep
      exact .ok (suffix_of_time? htime)

end Moments

section Values

theorem reads_simpleValue (cs : List Char) : ReadsFrom Prod.snd cs (simpleValue cs) := by
  unfold simpleValue
  split
  next step hstep => exact (reads_string? hstep).map fun _ => List.suffix_rfl
  next =>
      split
      next rest _ => exact .ok (List.suffix_append ['t', 'r', 'u', 'e'] rest)
      next rest _ => exact .ok (List.suffix_append ['f', 'a', 'l', 's', 'e'] rest)
      next =>
          split
          next step hstep =>
              rcases Option.or_eq_some_iff.mp hstep with hmoment | ⟨-, hnumber⟩
              · exact reads_moment? hmoment
              · exact reads_number? hnumber
          next => exact .ofOption suffix_of_special?

/-- Values, items and entries are read in turns, with a bound that goes down at each turn. -/
theorem reads_value_and_parts (bound : Nat) :
    (∀ cs, ReadsFrom Prod.snd cs (value bound cs)) ∧
      (∀ found cs, ReadsFrom Prod.snd cs (listItems bound found cs)) ∧
        ∀ entries sealedKeys cs,
          ReadsFrom Prod.snd cs (inlineEntries bound entries sealedKeys cs) := by
  induction bound with
  | zero => exact ⟨fun _ => .malformed, fun _ _ => .malformed, fun _ _ _ => .malformed⟩
  | succ bound ih =>
      obtain ⟨hvalue, hitems, hentries⟩ := ih
      refine ⟨fun cs => ?_, fun found cs => ?_, fun entries sealedKeys cs => ?_⟩
      · rw [value.eq_def]
        dsimp only
        split
        next rest =>
            have hblanks := (reads_skipLines rest false).mono (List.suffix_cons '[' rest)
            exact hblanks.bind fun rest => (hitems [] rest).bind fun (items, rest) =>
              .ok List.suffix_rfl
        next rest =>
            have hblanks := (skipSpaces_suffix rest).trans (List.suffix_cons '\x7b' rest)
            split
            next left hleft =>
                rw [hleft] at hblanks
                exact .ok ((List.suffix_cons _ left).trans hblanks)
            next =>
                exact ((hentries [] [] _).mono hblanks).bind fun (entries, rest) => .ok List.suffix_rfl
        next => exact reads_simpleValue cs
      · rw [listItems.eq_def]
        dsimp only
        split
        next rest => exact .ok (List.suffix_cons _ rest)
        next =>
            refine (hvalue cs).bind fun (item, rest) => (reads_skipLines rest false).bind fun rest => ?_
            dsimp only [id]
            split
            next rest => exact .ok (List.suffix_cons _ rest)
            next rest =>
                have hblanks := (reads_skipLines rest false).mono (List.suffix_cons ',' rest)
                exact hblanks.bind fun rest => hitems _ rest
            next => exact .malformed
      · rw [inlineEntries.eq_def]
        dsimp only
        refine (reads_key cs).bind fun (path, rest) => (reads_expect rest '=').bind fun rest => ?_
        refine ((hvalue _).mono (skipSpaces_suffix rest)).bind fun (item, rest) => ?_
        dsimp only [id]
        split
        · exact .malformed
        · refine (reads_change rest _).bind fun entries => ?_
          have hblanks := skipSpaces_suffix rest
          split
          next left hleft =>
              rw [hleft] at hblanks
              exact .ok ((List.suffix_cons _ left).trans hblanks)
          next left hleft =>
              rw [hleft] at hblanks
              have hafter := (skipSpaces_suffix left).trans ((List.suffix_cons ',' left).trans hblanks)
              exact (hentries _ _ _).mono hafter
          next => exact .malformed

end Values

section LineFeeds

variable {run cs : List Char}

/-- A text without line feeds that comes next in the changed document came next before the change. -/
theorem prefix_of_prefix_withLineFeeds (hline : '\n' ∉ run) (hrun : run <+: withLineFeeds cs) :
    run <+: cs := by
  fun_induction withLineFeeds cs generalizing run
  next rest ih =>
      rcases List.prefix_cons_iff.mp hrun with rfl | ⟨more, rfl, -⟩
      · exact List.nil_prefix
      · exact absurd List.mem_cons_self hline
  next c rest _ ih =>
      rcases List.prefix_cons_iff.mp hrun with rfl | ⟨more, rfl, hmore⟩
      · exact List.nil_prefix
      · exact List.cons_prefix_cons.mpr ⟨rfl, ih (fun h => hline (List.mem_cons_of_mem c h)) hmore⟩
  next => exact hrun

theorem infix_of_infix_withLineFeeds (hline : '\n' ∉ run) (hrun : run <:+: withLineFeeds cs) :
    run <:+: cs := by
  induction cs using withLineFeeds.induct with
  | case1 rest ih =>
      rcases List.infix_cons_iff.mp hrun with hhere | hlater
      · have hprefix : run <+: '\r' :: '\n' :: rest := prefix_of_prefix_withLineFeeds hline hhere
        exact hprefix.isInfix
      · exact (ih hlater).trans (List.suffix_append ['\r', '\n'] rest).isInfix
  | case2 c rest hpair ih =>
      rw [withLineFeeds.eq_2 c rest hpair] at hrun
      rcases List.infix_cons_iff.mp hrun with hhere | hlater
      · rw [← withLineFeeds.eq_2 c rest hpair] at hhere
        exact (prefix_of_prefix_withLineFeeds hline hhere).isInfix
      · exact (ih hlater).trans (List.suffix_cons c rest).isInfix
  | case3 => exact hrun

theorem hasLongNumber_of_withLineFeeds (hlong : HasLongNumber (withLineFeeds cs)) :
    HasLongNumber cs := by
  obtain ⟨run, hrun, hdigits, hlength⟩ := hlong
  have hline : '\n' ∉ run := fun hmem => absurd (hdigits _ hmem) (by decide)
  exact ⟨run, infix_of_infix_withLineFeeds hline hrun, hdigits, hlength⟩

end LineFeeds

section Documents

variable (d : Draft) (path : Key) (cs : List Char)

theorem reads_addEntry (item : Value) : ReadsFrom (fun _ => cs) cs (d.addEntry path item) := by
  unfold Draft.addEntry
  dsimp only
  split
  · exact .malformed
  · split
    · exact .malformed
    · exact (reads_change cs _).bind fun entries => .ok List.suffix_rfl

theorem reads_openTable : ReadsFrom (fun _ => cs) cs (d.openTable path) := by
  unfold Draft.openTable
  split
  · exact .malformed
  · exact (reads_change cs _).bind fun entries => .ok List.suffix_rfl

theorem reads_openListItem : ReadsFrom (fun _ => cs) cs (d.openListItem path) := by
  unfold Draft.openListItem
  split
  · exact .malformed
  · exact (reads_change cs _).bind fun entries => .ok List.suffix_rfl

theorem reads_statement : ReadsFrom Prod.snd cs (statement d cs) := by
  unfold statement
  split
  next rest =>
      have hkey := (reads_key rest).mono (List.suffix_append ['[', '['] rest)
      refine hkey.bind fun (path, rest) => (reads_openListItem d.settled path rest).bind fun d => ?_
      exact (reads_expect rest ']').bind fun rest => (reads_expect rest ']').bind fun rest =>
        .ok List.suffix_rfl
  next rest _ =>
      have hkey := (reads_key rest).mono (List.suffix_cons '[' rest)
      refine hkey.bind fun (path, rest) => (reads_openTable d.settled path rest).bind fun d => ?_
      exact (reads_expect rest ']').bind fun rest => .ok List.suffix_rfl
  next => exact .ok List.suffix_rfl
  next =>
      refine (reads_key cs).bind fun (path, rest) => (reads_expect rest '=').bind fun rest => ?_
      have hvalue := ((reads_value_and_parts (rest.length + 1)).1 _).mono (skipSpaces_suffix rest)
      exact hvalue.bind fun (item, rest) => (reads_addEntry d path rest item).bind fun d =>
        .ok List.suffix_rfl

/-- A document leaves nothing. -/
theorem reads_lines (bound : Nat) : ReadsFrom (fun _ => []) cs (lines bound d cs) := by
  induction bound generalizing d cs with
  | zero => exact .ok List.nil_suffix
  | succ bound ih =>
      have hblanks := skipSpaces_suffix cs
      rw [lines.eq_def]
      dsimp only
      split
      next => exact .ok List.nil_suffix
      next rest hrest =>
          rw [hrest] at hblanks
          exact (ih d rest).mono ((List.suffix_cons _ rest).trans hblanks)
      next =>
          refine ((reads_statement d _).mono hblanks).bind fun (d, rest) => ?_
          refine ((reads_skipComment _).mono (skipSpaces_suffix rest)).bind fun rest => ?_
          dsimp only [id]
          split
          next => exact .ok List.nil_suffix
          next rest => exact (ih d rest).mono (List.suffix_cons _ rest)
          next => exact .malformed

/-- A document is refused for a number that is too long only if there is one. -/
theorem hasLongNumber_of_document {text : List Char} (hlong : document text = .error .longNumber) :
    HasLongNumber text :=
  hasLongNumber_of_withLineFeeds ((reads_lines {} _ _).long hlong)

end Documents

end MutationTesting.Settings.Toml
