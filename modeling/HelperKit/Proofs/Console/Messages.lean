import HelperKit.Console.Screen
import Mathlib.Data.List.TakeWhile

/-!
# Messages can be shown

An escaped text holds no tag.  Between the two tags of a message nothing is marked up, so that
no text of a message keeps it from being shown.  The worst that a text can do is to end with
backslashes that make the closing tag literal.
-/

namespace HelperKit

namespace Markup

/-! ## Tags -/

/-- Whether a code point may be inside a tag. -/
def isInner (point : CodePoint) : Bool :=
  point ≠ .char ']' && point ≠ .char '['

variable {text body rest tail : Text}

theorem drop_takeWhile_length (text : Text) :
    text.drop (text.takeWhile isInner).length = text.dropWhile isInner := by
  calc text.drop (text.takeWhile isInner).length
      = (text.takeWhile isInner ++ text.dropWhile isInner).drop
          (text.takeWhile isInner).length := by rw [List.takeWhile_append_dropWhile]
    _ = text.dropWhile isInner := List.drop_left

/-- A tag begins as tags do, and ends at the first bracket, which closes it. -/
theorem tagAfter?_eq (text : Text) : tagAfter? text =
    if text.head?.any beginsTag = true ∧ (text.dropWhile isInner).head? = some (.char ']') then
      some (text.takeWhile isInner)
    else none := by
  unfold tagAfter?
  change (if (text.head?.any beginsTag &&
    decide ((text.drop (text.takeWhile isInner).length).head? = some (.char ']'))) = true then
      some (text.takeWhile isInner) else none) = _
  rw [drop_takeWhile_length]
  simp

theorem takeWhile_inner (inner : ∀ point ∈ body, isInner point = true)
    (outer : tail.head?.all fun point => !isInner point) :
    (body ++ tail).takeWhile isInner = body ∧ (body ++ tail).dropWhile isInner = tail := by
  rw [List.takeWhile_append_of_pos inner, List.dropWhile_append_of_pos inner]
  cases tail with
  | nil => simp
  | cons point tail =>
      have stops : isInner point = false := by simpa using outer
      simp [stops]

theorem tagAfter?_eq_some (found : tagAfter? text = some body) :
    ∃ rest, text = body ++ .char ']' :: rest ∧ (∀ point ∈ body, isInner point = true) ∧
      body.head?.any beginsTag = true := by
  rw [tagAfter?_eq] at found
  split at found
  · rename_i closed
    obtain ⟨begun, closes⟩ := closed
    obtain ⟨rest, closes⟩ := List.head?_eq_some_iff.mp closes
    have whole := List.takeWhile_append_dropWhile (p := isInner) (l := text)
    cases found
    rw [closes] at whole
    refine ⟨rest, whole.symm, fun point member => List.mem_takeWhile_imp member, ?_⟩
    cases taken : text.takeWhile isInner with
    | nil =>
        rw [taken] at whole
        rw [← whole] at begun
        simp [beginsTag] at begun
    | cons point body =>
        rw [taken] at whole
        rw [← whole] at begun
        simpa using begun
  · cases found

/-- A text up to its first bracket begins a tag, or does not, by its head alone. -/
theorem tagAfter?_of_inner (inner : ∀ point ∈ body, isInner point = true)
    (begins : body.head?.any beginsTag = true) :
    tagAfter? (body ++ .char ']' :: rest) = some body := by
  have stopped : (CodePoint.char ']' :: rest).head?.all (fun point => !isInner point) = true := by
    simp [isInner]
  obtain ⟨taken, dropped⟩ := takeWhile_inner inner stopped
  rw [tagAfter?_eq, taken, dropped]
  cases body with
  | nil => simp at begins
  | cons point body => simpa using begins

/-! ## Backslashes -/

theorem backslashes_add (first second : Nat) :
    backslashes (first + second) = backslashes first ++ backslashes second :=
  List.replicate_append_replicate.symm

theorem backslashes_succ (count : Nat) :
    backslashes (count + 1) = backslashes count ++ [.char '\\'] :=
  List.replicate_succ'

@[simp] theorem backslashes_zero : backslashes 0 = [] := rfl

theorem isInner_of_mem_backslashes {count : Nat} :
    ∀ point ∈ backslashes count, isInner point = true := by
  intro point member
  rw [List.eq_of_mem_replicate member]
  decide

theorem piecesFrom_backslashes (pending count : Nat) (text : Text) :
    piecesFrom 0 pending (backslashes count ++ text) = piecesFrom 0 (pending + count) text := by
  induction count generalizing pending with
  | zero => rfl
  | succ count induction =>
      have unfolded : piecesFrom 0 pending (backslashes (count + 1) ++ text) =
          piecesFrom 0 (pending + 1) (backslashes count ++ text) := by
        simp [backslashes, List.replicate_succ, piecesFrom]
      rw [unfolded, induction, Nat.add_assoc, Nat.add_comm 1]

theorem piecesFrom_skip (pending : Nat) (body text : Text) :
    piecesFrom body.length pending (body ++ text) = piecesFrom 0 pending text := by
  induction body with
  | nil => rfl
  | cons point body induction => simpa [piecesFrom] using induction

theorem escapeFrom_skip (pending : Nat) (body text : Text) :
    escapeFrom body.length pending (body ++ text) = body ++ escapeFrom 0 pending text := by
  induction body with
  | nil => rfl
  | cons point body induction => simpa [escapeFrom] using induction

/-- What is behind a tag is read as if there was nothing before it. -/
theorem piecesFrom_behind (body rest : Text) :
    piecesFrom (body.length + 1) 0 (body ++ .char ']' :: rest) = piecesFrom 0 0 rest := by
  have skipped := piecesFrom_skip 0 (body ++ [.char ']']) rest
  rw [List.length_append, List.append_assoc] at skipped
  exact skipped

theorem escapeFrom_behind (body rest : Text) :
    escapeFrom (body.length + 1) 0 (body ++ .char ']' :: rest) =
      body ++ .char ']' :: escapeFrom 0 0 rest := by
  have skipped := escapeFrom_skip 0 (body ++ [.char ']']) rest
  rw [List.length_append, List.append_assoc, List.append_assoc] at skipped
  exact skipped

/-! ## Escaped texts -/

/-- Up to its first bracket an escaped text is the text itself; there may only be more
backslashes before a bracket that opens. -/
theorem escapeFrom_eq (pending : Nat) (text : Text) :
    ∃ more rest, escapeFrom 0 pending text =
        backslashes pending ++ (text.takeWhile isInner ++ (backslashes more ++ rest)) ∧
      rest.head? = (text.dropWhile isInner).head? ∧
      (rest.head? ≠ some (.char '[') → more = 0) := by
  -- By the text, for any number of backslashes that wait to be written.
  induction text generalizing pending with
  | nil => exact ⟨0, [], by simp [escapeFrom, backslashes], rfl, fun _ => rfl⟩
  | cons point text induction =>
      by_cases slash : point = .char '\\'
      · obtain ⟨more, rest, escaped, head, few⟩ := induction (pending + 1)
        refine ⟨more, rest, ?_, ?_, few⟩
        · subst slash
          simp only [escapeFrom, if_true, escaped, backslashes_succ]
          simp [isInner]
        · subst slash
          simpa [isInner] using head
      · by_cases opens : point = .char '['
        · subst opens
          cases tag : tagAfter? text with
          | none =>
              refine ⟨0, .char '[' :: escapeFrom 0 0 text, ?_, ?_, fun other => ?_⟩
              · simp [escapeFrom, tag, isInner, backslashes]
              · simp [isInner]
              · simp at other
          | some body =>
              -- Here alone backslashes are added: their number is doubled, and one more escapes the
              -- bracket.
              refine ⟨pending + 1, .char '[' :: escapeFrom (body.length + 1) 0 text, ?_, ?_, ?_⟩
              · have double : 2 * pending + 1 = pending + (pending + 1) := by omega
                simp only [escapeFrom, slash, tag, if_false, if_true, double, backslashes_add]
                simp [isInner]
              · simp [isInner]
              · simp
        · obtain ⟨more, rest, escaped, head, few⟩ := induction 0
          by_cases closes : point = .char ']'
          · refine ⟨0, point :: escapeFrom 0 0 text, ?_, ?_, fun _ => rfl⟩
            · simp [escapeFrom, closes, isInner, backslashes]
            · simp [closes, isInner]
          · refine ⟨more, rest, ?_, ?_, few⟩
            · simp only [escapeFrom, slash, opens, if_false, escaped]
              simp [isInner, opens, closes, backslashes]
            · simpa [isInner, opens, closes] using head

/-- A text of which the part up to the first bracket begins a tag begins one itself. -/
theorem begins_of_takeWhile
    (begins : (text.takeWhile isInner ++ .char ']' :: rest).head?.any beginsTag = true) :
    text.head?.any beginsTag = true := by
  have whole := List.takeWhile_append_dropWhile (p := isInner) (l := text)
  cases taken : text.takeWhile isInner with
  | nil =>
      rw [taken] at begins
      simp [beginsTag] at begins
  | cons point body =>
      rw [taken] at begins whole
      rw [← whole]
      simpa using begins

/-- Escaping a text makes no tag behind a bracket where there was none. -/
theorem tagAfter?_escapeFrom (count : Nat)
    (stops : ∀ point, tail.head? = some point → point = .char '[')
    (none : tagAfter? text = none) :
    tagAfter? (escapeFrom 0 0 text ++ (backslashes count ++ tail)) = .none := by
  obtain ⟨more, rest, escaped, head, few⟩ := escapeFrom_eq 0 text
  have inner : ∀ point ∈ text.takeWhile isInner ++ backslashes more, isInner point = true :=
    List.forall_mem_append.mpr
      ⟨fun point member => List.mem_takeWhile_imp member, isInner_of_mem_backslashes⟩
  rw [tagAfter?_eq, if_neg]
  rintro ⟨begins, closes⟩
  cases rest with
  | nil =>
      -- Nothing but the tail is behind, and that has no bracket that closes.
      have outer : tail.head?.all fun point => !isInner point := by
        cases tail with
        | nil => rfl
        | cons point tail => simp [stops point rfl, isInner]
      have all : ∀ point ∈ text.takeWhile isInner ++ backslashes more ++ backslashes count,
          isInner point = true := List.forall_mem_append.mpr ⟨inner, isInner_of_mem_backslashes⟩
      have same : escapeFrom 0 0 text ++ (backslashes count ++ tail) =
          text.takeWhile isInner ++ backslashes more ++ backslashes count ++ tail := by
        simp [escaped]
      rw [same, (takeWhile_inner all outer).2] at closes
      cases stops _ closes
  | cons bracket rest =>
      have outer : isInner bracket = false := by
        have first := List.head?_dropWhile_not isInner text
        rw [← head] at first
        simpa using first
      have stopped : (bracket :: (rest ++ (backslashes count ++ tail))).head?.all
          (fun point => !isInner point) = true := by simp [outer]
      have same : escapeFrom 0 0 text ++ (backslashes count ++ tail) =
          text.takeWhile isInner ++ backslashes more ++
            bracket :: (rest ++ (backslashes count ++ tail)) := by simp [escaped]
      rw [same] at begins closes
      rw [(takeWhile_inner inner stopped).2] at closes
      have closing : bracket = .char ']' := by simpa using closes
      subst closing
      have nothing : more = 0 := few (by simp)
      subst nothing
      -- The head of the escaped text is that of the text, so that there was a tag before.
      rw [backslashes_zero, List.append_nil] at begins
      rw [tagAfter?_eq, if_pos ⟨begins_of_takeWhile begins, by rw [← head]; rfl⟩] at none
      cases none

/-- An escaped text, and the backslashes that follow it, show as they are. -/
theorem piecesFrom_escapeFrom (stops : ∀ point, tail.head? = some point → point = .char '[')
    (text : Text) (pending count : Nat) :
    ∃ (shown : List Text) (left : Nat), piecesFrom 0 0
        (escapeFrom 0 pending text ++ (backslashes count ++ tail)) =
      shown.map Piece.literal ++ piecesFrom 0 left tail := by
  match text with
  | [] =>
      refine ⟨[], pending + count, ?_⟩
      rw [escapeFrom, ← List.append_assoc, ← backslashes_add, piecesFrom_backslashes, Nat.zero_add]
      rfl
  | point :: text =>
      by_cases slash : point = .char '\\'
      · obtain ⟨shown, left, same⟩ := piecesFrom_escapeFrom stops text (pending + 1) count
        refine ⟨shown, left, ?_⟩
        rw [← same]
        simp only [escapeFrom, slash, if_true]
      · by_cases opens : point = .char '['
        · subst opens
          cases tag : tagAfter? text with
          | none =>
              obtain ⟨shown, left, same⟩ := piecesFrom_escapeFrom stops text 0 count
              refine ⟨(backslashes (pending - 1) ++ [.char '[']) :: shown, left, ?_⟩
              simp only [escapeFrom, slash, tag, if_false, if_true, List.append_assoc,
                List.cons_append, piecesFrom_backslashes, Nat.zero_add]
              simp only [piecesFrom, slash, if_false, if_true, tagAfter?_escapeFrom count stops tag, same,
                List.map_cons, List.cons_append]
          | some body =>
              -- The escaped bracket has an odd number of backslashes before it, so that its tag is
              -- literal.
              obtain ⟨rest, rfl, inner, begins⟩ := tagAfter?_eq_some tag
              obtain ⟨shown, left, same⟩ := piecesFrom_escapeFrom stops rest 0 count
              have odd : ¬ (2 * pending + 1) % 2 = 0 := by omega
              refine ⟨backslashes ((2 * pending + 1) / 2) ::
                ([.char '['] ++ body ++ [.char ']']) :: shown, left, ?_⟩
              simp only [escapeFrom, slash, tag, if_false, if_true, List.append_assoc,
                List.cons_append, piecesFrom_backslashes, Nat.zero_add, escapeFrom_behind]
              simp only [piecesFrom, slash, if_false, if_true, tagAfter?_of_inner inner begins,
                odd, piecesFrom_behind, same, List.map_cons, List.cons_append, List.append_assoc]
        · obtain ⟨shown, left, same⟩ := piecesFrom_escapeFrom stops text 0 count
          refine ⟨(backslashes pending ++ [point]) :: shown, left, ?_⟩
          simp only [escapeFrom, slash, opens, if_false, List.append_assoc, List.cons_append,
            piecesFrom_backslashes, Nat.zero_add]
          simp only [piecesFrom, slash, opens, if_false, same, List.map_cons, List.cons_append]
termination_by text.length
decreasing_by all_goals simp_all <;> omega

/-- An escaped text ends in such a way that what follows it is read as before, or with one
backslash more before it. -/
theorem escape_eq (text : Text) : ∃ count, escape text = escapeFrom 0 0 text ++ backslashes count := by
  unfold escape
  simp only
  split
  · exact ⟨1, rfl⟩
  · split
    · exact ⟨0, (List.append_nil _).symm⟩
    · exact ⟨1, rfl⟩
  · exact ⟨0, (List.append_nil _).symm⟩

/-- Literal pieces only put their text in front. -/
theorem showFrom_literals (place : Nat) (opened : List OpenTag) (shown : List Text)
    (rest : List Piece) : ∃ text : Text, showFrom place opened (shown.map Piece.literal ++ rest) =
      (showFrom (place + text.length) opened rest).map fun styled =>
        { styled with text := text ++ styled.text } := by
  induction shown generalizing place with
  | nil =>
      refine ⟨[], ?_⟩
      cases known : showFrom place opened rest <;> simp [known, Except.map]
  | cons first shown induction =>
      obtain ⟨text, same⟩ := induction (place + (Styled.sanitise first).length)
      refine ⟨Styled.sanitise first ++ text, ?_⟩
      rw [List.map_cons, List.cons_append, showFrom, same, List.length_append, Nat.add_assoc]
      cases showFrom (place + ((Styled.sanitise first).length + text.length)) opened rest with
      | error failure => rfl
      | ok styled => simp [Except.map, bind, Except.bind]

theorem render_escape (text : Text) : ∃ shown, render (escape text) = .ok ⟨shown, []⟩ := by
  obtain ⟨count, escaped⟩ := escape_eq text
  have stops : ∀ point, ([] : Text).head? = some point → point = .char '[' := by simp
  obtain ⟨shown, left, same⟩ := piecesFrom_escapeFrom stops text 0 count
  obtain ⟨literal, literally⟩ := showFrom_literals 0 [] (shown ++ [backslashes left]) []
  refine ⟨literal, ?_⟩
  rw [List.append_nil, ← escaped] at same
  rw [List.map_append, List.append_nil] at literally
  unfold render pieces
  rw [same]
  refine literally.trans ?_
  simp [showFrom, Except.map]

/-! ## Messages -/

/-- A name of a style that the two tags of a message can hold: it is in its normal form, has
no parameters and is not taken for a handler or for a closing tag. -/
structure IsTone (style : Text) : Prop where
  inner : ∀ point ∈ style, isInner point = true
  begins : style.head?.any beginsTag = true
  named : styleName style = .ok style
  simple : style.takeWhile (· ≠ .char '=') = style
  opens : style.head? ≠ some (.char '/')
  handles : style.head? ≠ some (.char '@')
  trimmed : style.strip = style

variable {style : Text}

theorem IsTone.openTag (tone : IsTone style) (place : Nat) :
    openTag style place = .ok ⟨style, none, place⟩ := by
  unfold Markup.openTag
  simp only [tone.simple, tone.named]
  simp [bind, Except.bind]

theorem IsTone.closingName?_open (tone : IsTone style) : closingName? style = none := by
  unfold closingName?
  rw [tone.simple]
  split
  · rename_i name
    exact absurd rfl tone.opens
  · rfl

theorem IsTone.closingName?_close (tone : IsTone style) :
    closingName? (.char '/' :: style) = some style := by
  unfold closingName?
  rw [List.takeWhile_cons, if_pos (by decide), tone.simple]
  exact congrArg some tone.trimmed

theorem IsTone.showFrom_close (tone : IsTone style) (first place : Nat) :
    showFrom place [⟨style, none, first⟩]
      [.tag (.char '/' :: style), .literal []] =
        .ok ⟨[], [⟨first, place, some style⟩]⟩ := by
  have nonempty : style ≠ [] := by
    intro empty
    have begins := tone.begins
    simp [empty] at begins
  have closed : OpenTag.close ⟨style, none, first⟩ place = .ok ⟨first, place, some style⟩ := by
    simp [OpenTag.close, OpenTag.isHandler, tone.handles, OpenTag.style]
  have taken : takeTag [⟨style, none, first⟩] style = .ok (⟨style, none, first⟩, []) := by
    simp [takeTag, nonempty, tone.named, bind, Except.bind]
  simp [showFrom, tone.closingName?_close, taken, closed, Styled.sanitise, bind, Except.bind]

/-- The closing tag of a style is a tag behind an even number of backslashes, and literal behind an
odd one. -/
theorem IsTone.piecesFrom_closing (tone : IsTone style) (left : Nat) :
    ∃ (literals : List Text) (rest : List Piece),
      piecesFrom 0 left (.char '[' :: .char '/' :: (style ++ [.char ']'])) =
        literals.map .literal ++ rest ∧
      (rest = [] ∨ rest = [.tag (.char '/' :: style), .literal []]) := by
  have last : piecesFrom (style.length + 1) 0 (style ++ [.char ']']) = [.literal []] :=
    piecesFrom_behind style []
  have closing : tagAfter? (.char '/' :: (style ++ [.char ']'])) = some (.char '/' :: style) :=
    tagAfter?_of_inner (List.forall_mem_cons.mpr ⟨by decide, tone.inner⟩) rfl
  by_cases even : left % 2 = 0
  · refine ⟨[backslashes (left / 2)], _, ?_, .inr rfl⟩
    simp [piecesFrom, closing, last, even]
  · refine ⟨[backslashes (left / 2), [.char '['] ++ (.char '/' :: style) ++ [.char ']'], []], _,
      ?_, .inl rfl⟩
    simp [piecesFrom, closing, last, even]

/-- A text in a style can be shown, whatever it holds. -/
theorem IsTone.render_eq_ok (tone : IsTone style) (text : Text) :
    ∃ styled, render (.char '[' :: (style ++ .char ']' ::
      (escape text ++ .char '[' :: .char '/' :: (style ++ [.char ']'])))) = .ok styled := by
  obtain ⟨count, escaped⟩ := escape_eq text
  have stops : ∀ point, (.char '[' :: .char '/' :: (style ++ [.char ']']) : Text).head? =
      some point → point = .char '[' := by simp
  obtain ⟨shown, left, same⟩ := piecesFrom_escapeFrom stops text 0 count
  have opening : pieces (.char '[' :: (style ++ .char ']' ::
      (escape text ++ .char '[' :: .char '/' :: (style ++ [.char ']'])))) =
      .literal [] :: .tag style :: (shown.map .literal ++
        piecesFrom 0 left (.char '[' :: .char '/' :: (style ++ [.char ']']))) := by
    rw [← same, escaped, List.append_assoc]
    simp [pieces, piecesFrom, tagAfter?_of_inner tone.inner tone.begins, piecesFrom_behind,
      backslashes]
  obtain ⟨literals, rest, ending, shape⟩ := tone.piecesFrom_closing left
  have shows : ∀ place, ∃ styled, showFrom place [⟨style, none, 0⟩] rest = .ok styled := by
    intro place
    rcases shape with rfl | rfl
    · exact ⟨_, rfl⟩
    · exact ⟨_, tone.showFrom_close 0 place⟩
  obtain ⟨literal, literally⟩ :=
    showFrom_literals 0 [⟨style, none, 0⟩] (shown ++ literals) rest
  obtain ⟨styled, known⟩ := shows (0 + literal.length)
  have whole : showFrom 0 [⟨style, none, 0⟩]
      (shown.map .literal ++ (literals.map .literal ++ rest)) =
        .ok { styled with text := literal ++ styled.text } := by
    rw [← List.append_assoc, ← List.map_append, literally, known]
    rfl
  refine ⟨{ styled with text := literal ++ styled.text }, ?_⟩
  unfold render
  rw [opening, ending]
  simp [showFrom, tone.closingName?_open, tone.openTag, whole, Styled.sanitise, bind, Except.bind]

end Markup

/-! ## Texts without styles -/

namespace Styled

/-- Whether nothing of a text is styled. -/
def IsBare (styled : Styled) : Prop :=
  styled.stretches = []

variable {styled line : Styled} {parts : List Styled}

theorem IsBare.isShowable (bare : styled.IsBare) : styled.isShowable = true := by
  unfold Styled.isShowable
  rw [bare]
  rfl

theorem IsBare.replace (bare : styled.IsBare) (text : Text) : (styled.replace text).IsBare := by
  have nothing : styled.stretches = [] := bare
  unfold Styled.replace IsBare
  split
  · simp [nothing]
  · exact nothing

theorem IsBare.slice (bare : styled.IsBare) (first last : Nat) :
    (styled.slice first last).IsBare := by
  have nothing : styled.stretches = [] := bare
  simp [IsBare, Styled.slice, nothing]

theorem IsBare.slicesFrom (bare : styled.IsBare) (gap place : Nat) (pieces : List Text) :
    ∀ part ∈ styled.slicesFrom gap place pieces, part.IsBare := by
  induction pieces generalizing place with
  | nil => simp [Styled.slicesFrom]
  | cons piece pieces induction =>
      rw [Styled.slicesFrom, List.forall_mem_cons]
      exact ⟨bare.slice _ _, induction _⟩

theorem IsBare.slices (bare : styled.IsBare) (gap : Nat) (pieces : List Text) :
    ∀ part ∈ styled.slices gap pieces, part.IsBare := by
  unfold Styled.slices
  split
  · simpa using bare
  · exact bare.slicesFrom gap 0 pieces

theorem isBare_fillTabs (bare : ∀ part ∈ parts, part.IsBare) (column : Nat) :
    (fillTabs column parts).IsBare := by
  induction parts generalizing column with
  | nil => rfl
  | cons part parts induction =>
      rw [List.forall_mem_cons] at bare
      have nothing : part.stretches = [] := bare.1
      have further : ∀ column, (fillTabs column parts).stretches = [] := induction bare.2
      unfold fillTabs IsBare
      split
      · simp [append, fillTab, nothing, further]
      · simp [append, nothing, further]

theorem IsBare.expandTabs (bare : line.IsBare) : line.expandTabs.IsBare := by
  unfold Styled.expandTabs
  split
  · exact isBare_fillTabs (bare.slicesFrom _ _ _) 0
  · exact bare

end Styled

namespace Cell

/-- A cell that holds a text without styles can be drawn. -/
theorem draw_eq_ok (wrapping : Bool) (padding width : Nat) {cell : Styled} (bare : cell.IsBare) :
    ∃ lines, draw wrapping padding width cell = .ok lines := by
  have shortened : ∀ line : Styled, line.IsBare → (shorten width line).IsBare := by
    intro line bare
    unfold shorten
    split <;> exact bare.replace _
  have showable : (cell.lines.flatMap (drawLine wrapping width)).all Styled.isShowable = true := by
    rw [List.all_eq_true]
    intro drawn member
    obtain ⟨line, part, member⟩ := List.mem_flatMap.mp member
    have expanded : line.expandTabs.IsBare := (bare.slices _ _ line part).expandTabs
    refine Styled.IsBare.isShowable ?_
    unfold drawLine at member
    simp only at member
    split at member
    · obtain ⟨piece, cut, rfl⟩ := List.mem_map.mp member
      exact shortened _ ((expanded.slices _ _ piece cut).replace _)
    · rw [List.mem_singleton.mp member]
      exact shortened _ expanded
  unfold draw
  split
  · exact ⟨_, rfl⟩
  · exact ⟨_, if_pos showable⟩

end Cell

namespace Screen

open Markup

theorem message_eq_ok_iff {style : String} {text shown : Text} :
    message style text = .ok shown ↔ ∃ styled, Markup.render
      (Text.ofString "[" ++ Text.ofString style ++ Text.ofString "]" ++ Markup.escape text ++
        Text.ofString "[/" ++ Text.ofString style ++ Text.ofString "]") = .ok styled ∧
      shown = appearance styled ++ "\n" := by
  unfold message
  cases Markup.render (Text.ofString "[" ++ Text.ofString style ++ Text.ofString "]" ++
      Markup.escape text ++ Text.ofString "[/" ++ Text.ofString style ++ Text.ofString "]") with
  | error failure => simp [Except.map]
  | ok styled => simp [Except.map, eq_comm]

/-- Every text can be a message in a style that a tag can set. -/
theorem message_eq_ok (style : String) (tone : IsTone (Text.ofString style)) (text : Text) :
    ∃ shown, message style text = .ok shown := by
  obtain ⟨styled, rendered⟩ := tone.render_eq_ok text
  refine ⟨appearance styled ++ "\n", ?_⟩
  unfold message
  have same : Text.ofString "[" ++ Text.ofString style ++ Text.ofString "]" ++ escape text ++
      Text.ofString "[/" ++ Text.ofString style ++ Text.ofString "]" =
      .char '[' :: (Text.ofString style ++ .char ']' ::
        (escape text ++ .char '[' :: .char '/' :: (Text.ofString style ++ [.char ']']))) := by
    simp [Text.ofString, Text.ofChars]
  rw [same, rendered]
  rfl

theorem success_eq_ok (text : Text) : ∃ shown, success text = .ok shown :=
  message_eq_ok "bold green" (by constructor <;> decide +kernel) text

theorem error_eq_ok (text : Text) : ∃ shown, error text = .ok shown :=
  message_eq_ok "bold red" (by constructor <;> decide +kernel) text

theorem warning_eq_ok (text : Text) : ∃ shown, warning text = .ok shown :=
  message_eq_ok "bold yellow" (by constructor <;> decide +kernel) text

theorem info_eq_ok (text : Text) : ∃ shown, info text = .ok shown :=
  message_eq_ok "cyan" (by constructor <;> decide +kernel) text

theorem exists_of_bind_eq_ok {α β : Type} {first : Except Failure α}
    {next : α → Except Failure β} {value : β} (returned : (first >>= next) = .ok value) :
    ∃ found, first = .ok found ∧ next found = .ok value := by
  cases first with
  | error failure => cases returned
  | ok found => exact ⟨found, rfl, returned⟩

/-- A table that sums up ends with an empty line. -/
theorem line_of_summaryTable {rows : List (Text × Text)} {title shown : Text}
    (drawn : summaryTable rows title = .ok shown) : ∃ table : Text, shown = table ++ "\n" := by
  unfold summaryTable at drawn
  obtain ⟨items, -, drawn⟩ := exists_of_bind_eq_ok drawn
  obtain ⟨values, -, drawn⟩ := exists_of_bind_eq_ok drawn
  simp only at drawn
  split at drawn
  · obtain ⟨heading, -, drawn⟩ := exists_of_bind_eq_ok drawn
    obtain ⟨header, -, drawn⟩ := exists_of_bind_eq_ok drawn
    obtain ⟨body, -, drawn⟩ := exists_of_bind_eq_ok drawn
    cases drawn
    exact ⟨_, rfl⟩
  · obtain ⟨styled, -, drawn⟩ := exists_of_bind_eq_ok drawn
    obtain ⟨heading, -, drawn⟩ := exists_of_bind_eq_ok drawn
    obtain ⟨header, -, drawn⟩ := exists_of_bind_eq_ok drawn
    obtain ⟨body, -, drawn⟩ := exists_of_bind_eq_ok drawn
    cases drawn
    exact ⟨_, rfl⟩

/-! ## Tables of options -/

theorem mapM_eq_ok {α β : Type} {step : α → Except Failure β} {items : List α}
    (returns : ∀ item ∈ items, ∃ value, step item = .ok value) :
    ∃ values, items.mapM step = .ok values ∧ items.map step = values.map .ok := by
  induction items with
  | nil => exact ⟨[], rfl, rfl⟩
  | cons item items induction =>
      rw [List.forall_mem_cons] at returns
      obtain ⟨⟨value, first⟩, rest⟩ := returns
      obtain ⟨values, collected, same⟩ := induction rest
      refine ⟨value :: values, ?_, ?_⟩
      · rw [List.mapM_cons, first, collected]
        rfl
      · rw [List.map_cons, List.map_cons, first, same]

theorem getElem?_of_map_eq {α β : Type} {step : α → Except Failure β} {items : List α}
    {values : List β} (same : items.map step = values.map .ok) {index : Nat} {item : α}
    (known : items[index]? = some item) :
    ∃ value, values[index]? = some value ∧ step item = .ok value := by
  have placed := congrArg (·[index]?) same
  simp only [List.getElem?_map, known, Option.map_some] at placed
  obtain ⟨value, found, returned⟩ := Option.map_eq_some_iff.mp placed.symm
  exact ⟨value, found, returned.symm⟩

theorem optionRow_eq_ok (width number : Nat) {label : Styled} (bare : label.IsBare) :
    ∃ row, optionRow width number label = .ok row := by
  have plain : (Styled.ofText (Text.ofNat number ++ ".")).IsBare := rfl
  obtain ⟨numbers, numbered⟩ := Cell.draw_eq_ok true optionPadding numberWidth plain
  obtain ⟨labels, labelled⟩ := Cell.draw_eq_ok true optionPadding width bare
  unfold optionRow
  simp only [numbered, labelled, bind, Except.bind, pure, Except.pure]
  exact ⟨_, rfl⟩

/-- The row of an option with a number and a label, in a table whose labels take `width` cells. -/
def IsRow (width number : Nat) (label row : Text) : Prop :=
  ∃ shown, Markup.render (Markup.escape label) = .ok shown ∧ optionRow width number shown = .ok row

/-- The blank row before the first option and behind the last one. -/
def blankRow (width : Nat) : Text :=
  Text.spaces (numberWidth + width + 4 * optionPadding + 3) ++ "\n"

/-- Every list of labels can be shown as a table.  It has a row for each of them, in their order
and numbered from one, between two blank rows. -/
theorem optionTable_eq_rows (labels : List Text) :
    ∃ (width : Nat) (rows : List Text),
      optionTable labels = .ok (blankRow width ++ rows.flatten ++ blankRow width) ∧
      rows.length = labels.length ∧
      ∀ index label, labels[index]? = some label →
        ∃ row, rows[index]? = some row ∧ IsRow width (index + 1) label row := by
  have renders : ∀ label ∈ labels, ∃ styled, Markup.render (Markup.escape label) = .ok styled := by
    intro label _
    obtain ⟨text, known⟩ := render_escape label
    exact ⟨_, known⟩
  obtain ⟨shown, rendered, origins⟩ := mapM_eq_ok renders
  have bare : ∀ styled ∈ shown, styled.IsBare := by
    intro styled member
    have listed : Except.ok styled ∈ labels.map fun label => Markup.render (Markup.escape label) :=
      origins ▸ List.mem_map_of_mem member
    obtain ⟨label, -, escaped⟩ := List.mem_map.mp listed
    obtain ⟨text, known⟩ := render_escape label
    cases known.symm.trans escaped
    rfl
  -- Escaped labels are without styles, and rows of such cells can be drawn.
  have draws : ∀ entry ∈ shown.zipIdx, ∃ row : Text,
      optionRow (Cell.columnWidth shown) (entry.2 + 1) entry.1 = .ok row := by
    intro entry member
    exact optionRow_eq_ok _ _ (bare _ (List.fst_mem_of_mem_zipIdx member))
  obtain ⟨rows, drawn, placed⟩ := mapM_eq_ok draws
  refine ⟨Cell.columnWidth shown, rows, ?_, ?_, ?_⟩
  · unfold optionTable
    simp only [rendered, drawn, bind, Except.bind, pure, Except.pure]
    rfl
  · have first := congrArg List.length origins
    have second := congrArg List.length placed
    simp only [List.length_map, List.length_zipIdx] at first second
    exact (first.trans second).symm
  · intro index label known
    obtain ⟨styled, found, escaped⟩ := getElem?_of_map_eq origins known
    have numbered : shown.zipIdx[index]? = some (styled, index) := by
      rw [List.getElem?_zipIdx, found]
      simp
    obtain ⟨row, laid, returned⟩ := getElem?_of_map_eq placed numbered
    exact ⟨row, laid, styled, escaped, returned⟩

/-- A table of options ends with a line feed. -/
theorem optionTable_eq_ok (labels : List Text) :
    ∃ table : Text, optionTable labels = .ok (table ++ "\n") := by
  obtain ⟨width, rows, drawn, -⟩ := optionTable_eq_rows labels
  rw [blankRow, ← List.append_assoc] at drawn
  exact ⟨_, drawn⟩

end Screen

end HelperKit
