import HelperKit.Text.Blank
import Mathlib.Data.List.DropRight
import Mathlib.Data.List.Infix
import Mathlib.Data.List.ModifyLast

/-!
# Lines as they are read

Cutting a text at its line feeds gives one piece more than there are line feeds.  Who reads
a text line by line does not count that piece if it is empty.  Stripping a text drops blank
lines at its two ends and trims the lines that are left there.
-/

namespace HelperKit.Text

/-- Puts a code point in front of the first line, which is a new one if there is none. -/
def grow (point : CodePoint) : List Text → List Text
  | [] => [[point]]
  | row :: rows => (point :: row) :: rows

/-- The lines of a text as they are read: the pieces that a line feed ends, and a last piece that
none ends, if there is one. -/
def rows : Text → List Text
  | [] => []
  | point :: rest => if point = .char '\n' then [] :: rows rest else grow point (rows rest)

/-- Lines that are ended by line feeds. -/
def ended (lines : List Text) : Text :=
  lines.flatMap fun line => line ++ [.char '\n']

/-- Whether every line of a text is ended by a line feed. -/
def IsEnded (text : Text) : Prop :=
  ∀ point ∈ text.getLast?, point = .char '\n'

/-- Lines without the blank ones at both ends, trimmed at their outer sides. -/
def trimmed (lines : List Text) : List Text :=
  (((lines.dropWhile isBlank).modifyHead stripStart).rdropWhile isBlank).modifyLast stripEnd

variable {text line : Text} {lines : List Text} {point : CodePoint}

theorem grow_ne_nil (point : CodePoint) (lines : List Text) : grow point lines ≠ [] := by
  cases lines <;> simp [grow]

theorem rows_eq_nil_iff : rows text = [] ↔ text = [] := by
  cases text with
  | nil => simp [rows]
  | cons point rest =>
      rw [rows]
      split <;> simp [grow_ne_nil]

/-- A line is read without its line feed. -/
theorem notMem_of_mem_rows (member : line ∈ rows text) : .char '\n' ∉ line := by
  induction text generalizing line with
  | nil => simp [rows] at member
  | cons point rest induction =>
      rw [rows] at member
      split at member
      · rcases List.mem_cons.mp member with rfl | member
        · simp
        · exact induction member
      · rename_i other
        cases known : rows rest with
        | nil =>
            rw [known] at member
            simpa [List.mem_singleton.mp member] using Ne.symm other
        | cons row more =>
            rw [known] at member induction
            rcases List.mem_cons.mp member with rfl | member
            · simpa using ⟨Ne.symm other, induction List.mem_cons_self⟩
            · exact induction (List.mem_cons_of_mem _ member)

theorem lines_cons (point : CodePoint) (rest : Text) : Text.lines (point :: rest) =
    if point = .char '\n' then [] :: Text.lines rest else grow point (Text.lines rest) := by
  unfold Text.lines
  rw [splitOn]
  split
  · rfl
  · cases splitOn (.char '\n') rest <;> rfl

theorem splitOn_of_notMem {separator : CodePoint} (whole : separator ∉ text) :
    splitOn separator text = [text] := by
  induction text with
  | nil => rfl
  | cons point rest induction =>
      obtain ⟨other, further⟩ := not_or.mp (mt List.mem_cons.mpr whole)
      rw [splitOn, if_neg (Ne.symm other), induction further]

/-- There is nothing behind the last line feed of a text that one ends. -/
theorem lines_of_isEnded (isEnded : IsEnded text) : Text.lines text = rows text ++ [[]] := by
  induction text with
  | nil => rfl
  | cons point rest induction =>
      rw [lines_cons, rows]
      cases rest with
      | nil =>
          have last : point = .char '\n' := isEnded point (by simp)
          rw [if_pos last, if_pos last]
          rfl
      | cons next rest =>
          have later : IsEnded (next :: rest) := fun point last => isEnded point (by simpa using last)
          rw [induction later]
          split
          · rfl
          · have some : rows (next :: rest) ≠ [] := fun none => by
              simp [rows_eq_nil_iff] at none
            obtain ⟨row, more, known⟩ := List.exists_cons_of_ne_nil some
            rw [known]
            rfl

theorem lines_eq_rows_append (text : Text) :
    ∃ tail, (tail = [] ∨ tail = [[]]) ∧ Text.lines text = rows text ++ tail := by
  induction text with
  | nil => exact ⟨[[]], .inr rfl, rfl⟩
  | cons point rest induction =>
      obtain ⟨tail, few, known⟩ := induction
      rw [lines_cons, rows, known]
      split
      · exact ⟨tail, few, rfl⟩
      · cases pieces : rows rest with
        | cons row more => exact ⟨tail, few, rfl⟩
        | nil =>
            rcases few with rfl | rfl
            · exact absurd (known.trans (by simp [pieces])) (splitOn_ne_nil _ _)
            · exact ⟨[], .inl rfl, rfl⟩

/-- However a text is cut at its line feeds, lines that are ended are cut off one by one. -/
theorem cut_ended_append {cut : Text → List Text}
    (step : ∀ point rest, cut (point :: rest) =
      if point = .char '\n' then [] :: cut rest else grow point (cut rest))
    (whole : ∀ line ∈ lines, .char '\n' ∉ line) (text : Text) :
    cut (ended lines ++ text) = lines ++ cut text := by
  induction lines with
  | nil => rfl
  | cons line lines induction =>
      rw [List.forall_mem_cons] at whole
      have behind : ∀ rest, cut (line ++ .char '\n' :: rest) = line :: cut rest := by
        intro rest
        replace whole := whole.1
        induction line with
        | nil => simp [step]
        | cons point line further =>
            simp only [List.mem_cons, not_or] at whole
            rw [List.cons_append, step, if_neg (Ne.symm whole.1), further whole.2, grow]
      have first : ended (line :: lines) ++ text = line ++ .char '\n' :: (ended lines ++ text) := by
        simp [ended]
      rw [first, behind, induction whole.2]
      rfl

theorem rows_ended_append (whole : ∀ line ∈ lines, .char '\n' ∉ line) (text : Text) :
    rows (ended lines ++ text) = lines ++ rows text :=
  cut_ended_append (fun _ _ => rfl) whole text

theorem lines_ended_append (whole : ∀ line ∈ lines, .char '\n' ∉ line) (text : Text) :
    Text.lines (ended lines ++ text) = lines ++ Text.lines text :=
  cut_ended_append lines_cons whole text

theorem mem_rows_of_mem_lines (member : line ∈ Text.lines text) : line ∈ rows text ∨ line = [] := by
  obtain ⟨tail, few, known⟩ := lines_eq_rows_append text
  rw [known] at member
  rcases List.mem_append.mp member with row | last
  · exact .inl row
  · rcases few with rfl | rfl
    · cases last
    · exact .inr (List.mem_singleton.mp last)

theorem notMem_of_mem_lines (member : line ∈ Text.lines text) : .char '\n' ∉ line := by
  rcases mem_rows_of_mem_lines member with row | rfl
  · exact notMem_of_mem_rows row
  · simp

theorem rows_of_notMem (whole : .char '\n' ∉ line) : rows line = if line = [] then [] else [line] := by
  induction line with
  | nil => rfl
  | cons point line induction =>
      simp only [List.mem_cons, not_or] at whole
      rw [rows, if_neg (Ne.symm whole.1), induction whole.2]
      cases line <;> rfl

theorem unlines_concat (lines : List Text) (line : Text) :
    unlines (lines ++ [line]) = ended lines ++ line := by
  unfold unlines join
  induction lines with
  | nil => simp [ended]
  | cons first lines induction =>
      have more : lines ++ [line] ≠ [] := by simp
      obtain ⟨next, rest, known⟩ := List.exists_cons_of_ne_nil more
      rw [List.cons_append, known, List.intercalate_cons_cons, ← known, induction]
      simp [ended]

theorem unlines_append_newline (nonempty : lines ≠ []) : unlines lines ++ [.char '\n'] = ended lines := by
  obtain ⟨front, last, rfl⟩ := (List.eq_nil_or_concat' lines).resolve_left nonempty
  rw [unlines_concat]
  simp [ended]

theorem eq_rows_unlines_append (whole : ∀ line ∈ lines, .char '\n' ∉ line) :
    ∃ tail, (tail = [] ∨ tail = [[]]) ∧ lines = rows (unlines lines) ++ tail := by
  induction lines using List.reverseRecOn with
  | nil => exact ⟨[], .inl rfl, rfl⟩
  | append_singleton lines line =>
      rw [List.forall_mem_append] at whole
      rw [unlines_concat, rows_ended_append whole.1, rows_of_notMem (whole.2 line (by simp))]
      by_cases empty : line = []
      · exact ⟨[[]], .inr rfl, by simp [empty]⟩
      · exact ⟨[], .inl rfl, by simp [empty]⟩

/-! ## Stripping -/

/-- Blanks at the beginning are those of lines that are blank, and of the first other one. -/
theorem rows_stripStart (text : Text) :
    rows (stripStart text) = ((rows text).dropWhile isBlank).modifyHead stripStart := by
  induction text with
  | nil => rfl
  | cons point rest induction =>
      unfold stripStart at induction ⊢
      rw [List.dropWhile_cons]
      by_cases blank : point.isBlank = true
      · rw [if_pos blank, induction, rows]
        split
        · rfl
        · cases rows rest with
          | nil => simp [grow, isBlank, blank]
          | cons row more =>
              have same : isBlank (point :: row) = isBlank row := by simp [isBlank, blank]
              rw [grow, List.dropWhile_cons, List.dropWhile_cons, same]
              split
              · rfl
              · simp [blank]
      · have other : point ≠ .char '\n' := by
          rintro rfl
          exact blank rfl
        have kept : ∀ row, isBlank (point :: row) = false := by
          intro row
          simp [isBlank, blank]
        rw [if_neg blank, rows, if_neg other]
        cases rows rest <;> simp [grow, kept, blank]

theorem rdropWhile_cons {α : Type} (holds : α → Bool) (first : α) (rest : List α) :
    (first :: rest).rdropWhile holds =
      if rest.rdropWhile holds = [] then [first].rdropWhile holds
      else first :: rest.rdropWhile holds := by
  unfold List.rdropWhile
  rw [List.reverse_cons, List.dropWhile_append]
  cases known : rest.reverse.dropWhile holds <;> simp

/-- Lines without the blank ones at the end, trimmed there. -/
def trimmedEnd (lines : List Text) : List Text :=
  (lines.rdropWhile isBlank).modifyLast stripEnd

theorem trimmedEnd_nil : trimmedEnd [] = [] := rfl

theorem trimmedEnd_cons (line : Text) (lines : List Text) : trimmedEnd (line :: lines) =
    if trimmedEnd lines = [] then (if isBlank line then [] else [stripEnd line])
    else line :: trimmedEnd lines := by
  unfold trimmedEnd
  rw [rdropWhile_cons]
  cases known : lines.rdropWhile isBlank with
  | nil =>
      rw [if_pos rfl, List.rdropWhile_singleton]
      split <;> rfl
  | cons row more =>
      have kept : (row :: more).modifyLast stripEnd ≠ [] := by
        intro none
        have whole := List.dropLast_append_getLast (List.cons_ne_nil row more)
        rw [← whole, List.modifyLast_concat] at none
        simp at none
      rw [if_neg (List.cons_ne_nil row more), if_neg kept]
      exact List.modifyLast_append_of_right_ne_nil stripEnd [line] (row :: more) (by simp)

theorem stripEnd_cons (point : CodePoint) (text : Text) : stripEnd (point :: text) =
    if stripEnd text = [] then (if point.isBlank then [] else [point])
    else point :: stripEnd text := by
  have unfolded : ∀ text : Text, stripEnd text = text.rdropWhile CodePoint.isBlank := fun _ => rfl
  rw [unfolded, unfolded, rdropWhile_cons, List.rdropWhile_singleton]

theorem stripEnd_eq_nil_iff : stripEnd text = [] ↔ isBlank text = true := by
  unfold stripEnd stripStart isBlank
  simp

theorem stripStart_of_blank (blank : point.isBlank = true) :
    stripStart (point :: text) = stripStart text :=
  List.dropWhile_cons_of_pos blank

theorem stripStart_of_solid (solid : point.isBlank = false) :
    stripStart (point :: text) = point :: text :=
  List.dropWhile_cons_of_neg (by simp [solid])

/-- It does not matter which end is stripped first. -/
theorem stripStart_stripEnd (text : Text) : stripStart (stripEnd text) = strip text := by
  unfold strip
  induction text with
  | nil => rfl
  | cons point rest induction =>
      by_cases blank : point.isBlank = true
      · rw [stripStart_of_blank blank, ← induction, stripEnd_cons]
        by_cases empty : stripEnd rest = []
        · rw [if_pos empty, if_pos blank, empty]
        · rw [if_neg empty, stripStart_of_blank blank]
      · rw [Bool.not_eq_true] at blank
        rw [stripStart_of_solid blank, stripEnd_cons]
        split
        · rw [if_neg (by simp [blank]), stripStart_of_solid blank]
        · rw [stripStart_of_solid blank]

@[simp]
theorem strip_stripStart (text : Text) : strip (stripStart text) = strip text := by
  unfold strip stripStart
  rw [List.dropWhile_idempotent]

@[simp]
theorem strip_stripEnd (text : Text) : strip (stripEnd text) = strip text := by
  have again : stripEnd (stripEnd text) = stripEnd text :=
    List.rdropWhile_idempotent CodePoint.isBlank text
  rw [← stripStart_stripEnd, again, stripStart_stripEnd]

/-- Stripping twice is stripping once. -/
@[simp]
theorem strip_strip (text : Text) : strip (strip text) = strip text :=
  calc strip (strip text) = strip (stripStart text) := strip_stripEnd _
    _ = strip text := strip_stripStart text

theorem stripEnd_of_solid (solid : ∀ point ∈ text, point.isBlank = false) : stripEnd text = text := by
  have ends : ∀ nonempty : text ≠ [], ¬ (text.getLast nonempty).isBlank = true := by
    intro nonempty
    rw [solid _ (List.getLast_mem nonempty)]
    decide
  exact List.rdropWhile_eq_self_iff.mpr ends

theorem strip_of_solid (solid : ∀ point ∈ text, point.isBlank = false) : strip text = text := by
  have begins : stripStart text = text := by
    cases text with
    | nil => rfl
    | cons point rest => exact stripStart_of_solid (solid point List.mem_cons_self)
  rw [strip, begins, stripEnd_of_solid solid]

theorem strip_eq_nil_iff : strip text = [] ↔ isBlank text = true := by
  unfold strip
  rw [stripEnd_eq_nil_iff]
  induction text with
  | nil => rfl
  | cons point rest induction =>
      by_cases blank : point.isBlank = true
      · rw [stripStart_of_blank blank, induction]
        simp [isBlank, blank]
      · rw [Bool.not_eq_true] at blank
        rw [stripStart_of_solid blank]

theorem head_strip (text : Text) : ∀ point ∈ (strip text).head?, point.isBlank = false := by
  rw [← stripStart_stripEnd]
  intro point first
  have stops := List.head?_dropWhile_not CodePoint.isBlank (stripEnd text)
  unfold stripStart at first
  rw [first] at stops
  exact stops

/-- Whatever follows a text, its blanks at the end are all that may be lost. -/
theorem stripEnd_prefix_append (text behind : Text) : stripEnd text <+: stripEnd (text ++ behind) := by
  induction text with
  | nil => exact List.nil_prefix
  | cons point rest induction =>
      rw [List.cons_append, stripEnd_cons, stripEnd_cons]
      by_cases empty : stripEnd rest = []
      · rw [if_pos empty]
        by_cases blank : point.isBlank = true
        · rw [if_pos blank]
          exact List.nil_prefix
        · rw [if_neg blank]
          split
          · exact List.prefix_rfl
          · exact List.cons_prefix_cons.mpr ⟨rfl, List.nil_prefix⟩
      · have further : stripEnd (rest ++ behind) ≠ [] := fun none => empty (by
          rw [none] at induction
          exact List.prefix_nil.mp induction)
        rw [if_neg empty, if_neg further]
        exact List.cons_prefix_cons.mpr ⟨rfl, induction⟩

/-- A text that is stripped is the beginning of any longer one that is. -/
theorem strip_prefix_strip_append (text behind : Text) : strip text <+: strip (text ++ behind) := by
  by_cases blank : isBlank text = true
  · rw [strip_eq_nil_iff.mpr blank]
    exact List.nil_prefix
  · have kept : (stripStart text).isEmpty = false := by
      rw [List.isEmpty_eq_false_iff]
      intro none
      refine blank (strip_eq_nil_iff.mp ?_)
      rw [strip, none]
      rfl
    have longer : stripStart (text ++ behind) = stripStart text ++ behind := by
      unfold stripStart at kept ⊢
      rw [List.dropWhile_append, kept]
      rfl
    unfold strip
    rw [longer]
    exact stripEnd_prefix_append _ _

theorem trimmedEnd_grow (point : CodePoint) (lines : List Text) :
    trimmedEnd (grow point lines) =
      if trimmedEnd lines = [] then (if point.isBlank then [] else [[point]])
      else grow point (trimmedEnd lines) := by
  cases lines with
  | nil =>
      have nothing : stripEnd [] = [] := rfl
      rw [grow, trimmedEnd_cons, if_pos trimmedEnd_nil, if_pos trimmedEnd_nil, stripEnd_cons,
        if_pos nothing]
      by_cases blank : point.isBlank = true <;> simp [isBlank, blank]
  | cons row more =>
      rw [grow, trimmedEnd_cons, trimmedEnd_cons]
      by_cases last : trimmedEnd more = []
      · rw [if_pos last, if_pos last, stripEnd_cons]
        by_cases empty : isBlank row = true
        · have stripped := stripEnd_eq_nil_iff.mpr empty
          have same : isBlank (point :: row) = point.isBlank := by
            simpa [isBlank] using fun _ => empty
          simp only [empty, stripped, same, if_true]
          split <;> rfl
        · have stripped := mt stripEnd_eq_nil_iff.mp empty
          have kept : isBlank (point :: row) = false := by
            simp only [isBlank, List.all_cons, Bool.and_eq_false_iff]
            exact .inr (by simpa [isBlank] using empty)
          simp [empty, stripped, kept, grow]
      · simp [last, grow]

/-- Blanks at the end are those of lines that are blank, and of the last other one. -/
theorem rows_stripEnd (text : Text) : rows (stripEnd text) = trimmedEnd (rows text) := by
  induction text with
  | nil => rfl
  | cons point rest induction =>
      have gone : stripEnd rest = [] ↔ trimmedEnd (rows rest) = [] := by
        rw [← induction, rows_eq_nil_iff]
      rw [stripEnd_cons, rows]
      by_cases newline : point = .char '\n'
      · subst newline
        rw [if_pos rfl, trimmedEnd_cons]
        by_cases empty : stripEnd rest = []
        · rw [if_pos empty, if_pos (gone.mp empty)]
          rfl
        · rw [if_neg empty, if_neg (mt gone.mpr empty), rows, if_pos rfl, induction]
      · rw [if_neg newline]
        rw [trimmedEnd_grow]
        by_cases empty : stripEnd rest = []
        · rw [if_pos empty, if_pos (gone.mp empty)]
          split
          · rfl
          · rw [rows, if_neg newline]
            rfl
        · rw [if_neg empty, if_neg (mt gone.mpr empty), rows, if_neg newline, induction]

/-- Trimming keeps what lines have in common, if stripping a line keeps it. -/
theorem forall_mem_trimmed {holds : Text → Prop} (start : ∀ line, holds line → holds line.stripStart)
    (finish : ∀ line, holds line → holds line.stripEnd) (all : ∀ line ∈ lines, holds line) :
    ∀ line ∈ trimmed lines, holds line := by
  have first : ∀ line ∈ (lines.dropWhile isBlank).modifyHead stripStart, holds line := by
    have some : ∀ line ∈ lines.dropWhile isBlank, holds line := fun line member =>
      all line ((List.dropWhile_sublist _).subset member)
    cases known : lines.dropWhile isBlank with
    | nil => simp
    | cons line rest =>
        rw [known, List.forall_mem_cons] at some
        exact List.forall_mem_cons.mpr ⟨start line some.1, some.2⟩
  unfold trimmed
  have kept : ∀ line ∈ ((lines.dropWhile isBlank).modifyHead stripStart).rdropWhile isBlank,
      holds line := fun line member => first line ((List.rdropWhile_prefix isBlank _).subset member)
  cases known : ((lines.dropWhile isBlank).modifyHead stripStart).rdropWhile isBlank using
      List.reverseRecOn with
  | nil => simp [List.modifyLast, List.modifyLast.go]
  | append_singleton rest line =>
      rw [known, List.forall_mem_append] at kept
      rw [List.modifyLast_concat]
      exact List.forall_mem_append.mpr
        ⟨kept.1, List.forall_mem_singleton.mpr (finish line (kept.2 line (by simp)))⟩

theorem rows_strip (text : Text) : rows (strip text) = trimmed (rows text) := by
  unfold strip trimmed
  rw [rows_stripEnd, rows_stripStart, trimmedEnd]

end HelperKit.Text
