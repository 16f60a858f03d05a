import HelperKit.Proofs.Console.Messages

/-!
# Texts that markup leaves alone

A text that holds no tag, and no backslash right before a bracket, shows as it is.  It is the only
kind of text that does: a tag does not show, and neither do some of the backslashes before a
bracket, so that less is left of any other text.
-/

namespace HelperKit

namespace Markup

open Screen (exists_of_bind_eq_ok)

/-- What stands between the brackets of a tag. -/
structure IsTagBody (body : Text) : Prop where
  begins : body.head?.any beginsTag = true
  inner : ∀ point ∈ body, isInner point = true

/-- A text without markup. -/
structure IsPlain (text : Text) : Prop where
  untagged : ∀ body, IsTagBody body → ¬ .char '[' :: (body ++ [.char ']']) <:+: text
  unescaped : ¬ [.char '\\', .char '['] <:+: text

variable {text rest body part : Text} {point : CodePoint}

theorem tagAfter?_eq_some_iff : tagAfter? text = some body ↔
    IsTagBody body ∧ body ++ [.char ']'] <+: text := by
  constructor
  · intro found
    obtain ⟨rest, rfl, inner, begins⟩ := tagAfter?_eq_some found
    exact ⟨⟨begins, inner⟩, rest, by simp⟩
  · rintro ⟨⟨begins, inner⟩, rest, rfl⟩
    rw [List.append_assoc]
    exact tagAfter?_of_inner inner begins

theorem IsPlain.of_infix (plain : IsPlain text) (inside : part <:+: text) : IsPlain part where
  untagged body isBody tagged := plain.untagged body isBody (tagged.trans inside)
  unescaped escaped := plain.unescaped (escaped.trans inside)

theorem isPlain_nil : IsPlain [] where
  untagged body _ tagged := by simp at tagged
  unescaped escaped := by simp at escaped

/-- Markup is found where it begins. -/
theorem isPlain_cons : IsPlain (point :: rest) ↔
    (point = .char '[' → tagAfter? rest = none) ∧
    (point = .char '\\' → rest.head? ≠ some (.char '[')) ∧ IsPlain rest := by
  constructor
  · intro plain
    refine ⟨?_, ?_, plain.of_infix (List.suffix_cons point rest).isInfix⟩
    · rintro rfl
      cases found : tagAfter? rest with
      | none => rfl
      | some body =>
          obtain ⟨isBody, begins⟩ := tagAfter?_eq_some_iff.mp found
          exact absurd (List.cons_prefix_cons.mpr ⟨rfl, begins⟩).isInfix (plain.untagged body isBody)
    · rintro rfl opens
      obtain ⟨rest, rfl⟩ := List.head?_eq_some_iff.mp opens
      exact plain.unescaped (List.prefix_append [.char '\\', .char '['] rest).isInfix
  · rintro ⟨untagged, unescaped, plain⟩
    constructor
    · intro body isBody tagged
      rcases List.infix_cons_iff.mp tagged with begins | inside
      · obtain ⟨rfl, follows⟩ := List.cons_prefix_cons.mp begins
        cases (untagged rfl).symm.trans (tagAfter?_eq_some_iff.mpr ⟨isBody, follows⟩)
      · exact plain.untagged body isBody inside
    · intro escaped
      rcases List.infix_cons_iff.mp escaped with begins | inside
      · obtain ⟨rfl, rest, rfl⟩ := List.cons_prefix_cons.mp begins
        exact unescaped rfl rfl
      · exact plain.unescaped inside

instance decidableIsPlain : (text : Text) → Decidable (IsPlain text)
  | [] => .isTrue isPlain_nil
  | _ :: rest =>
      have : Decidable (IsPlain rest) := decidableIsPlain rest
      decidable_of_iff _ isPlain_cons.symm

theorem isPlain_of_notMem (absent : .char '[' ∉ text) : IsPlain text where
  untagged _ _ tagged := absent (tagged.subset List.mem_cons_self)
  unescaped escaped := absent (escaped.subset (by simp))

theorem isPlain_backslashes_append (pending : Nat) : IsPlain (backslashes pending ++ text) ↔
    (text.head? = some (.char '[') → pending = 0) ∧ IsPlain text := by
  induction pending with
  | zero => simp [backslashes]
  | succ pending induction =>
      have grown : backslashes (pending + 1) ++ text =
          .char '\\' :: (backslashes pending ++ text) := rfl
      rw [grown, isPlain_cons, induction]
      cases pending with
      | zero => simp [backslashes]
      | succ pending => simp [backslashes, List.replicate_succ]

/-! ## What shows of a text -/

/-- What pieces show, their tags left out. -/
def spoken : List Piece → Text
  | [] => []
  | .literal text :: rest => text ++ spoken rest
  | .tag _ :: rest => spoken rest

theorem text_of_showFrom {place : Nat} {opened : List OpenTag} {pieces : List Piece}
    {shown : Styled} (shows : showFrom place opened pieces = .ok shown) :
    shown.text = Styled.sanitise (spoken pieces) := by
  induction pieces generalizing place opened shown with
  | nil =>
      cases shows
      rfl
  | cons piece pieces induction =>
      cases piece with
      | literal text =>
          obtain ⟨rest, further, shows⟩ := exists_of_bind_eq_ok shows
          cases shows
          rw [induction further, spoken, Styled.sanitise, Styled.sanitise, Styled.sanitise,
            List.filter_append]
      | tag text =>
          rw [showFrom] at shows
          rw [spoken]
          split at shows
          · obtain ⟨tag, -, shows⟩ := exists_of_bind_eq_ok shows
            exact induction shows
          · obtain ⟨taken, -, shows⟩ := exists_of_bind_eq_ok shows
            obtain ⟨stretch, -, shows⟩ := exists_of_bind_eq_ok shows
            obtain ⟨rest, further, shows⟩ := exists_of_bind_eq_ok shows
            cases shows
            rw [← induction further]

theorem spoken_literals (shown : List Text) : spoken (shown.map .literal) = shown.flatten := by
  induction shown with
  | nil => rfl
  | cons first shown induction => exact congrArg (first ++ ·) induction

/-! ## The pieces of a text, step by step -/

theorem piecesFrom_slash (pending : Nat) (rest : Text) :
    piecesFrom 0 pending (.char '\\' :: rest) = piecesFrom 0 (pending + 1) rest := by
  rw [piecesFrom, if_pos rfl]

theorem piecesFrom_bracket (pending : Nat) (untagged : tagAfter? rest = none) :
    piecesFrom 0 pending (.char '[' :: rest) =
      .literal (backslashes (pending - 1) ++ [.char '[']) :: piecesFrom 0 0 rest := by
  rw [piecesFrom, if_neg (by decide), if_pos rfl, untagged]

theorem piecesFrom_tag (pending : Nat) (isBody : IsTagBody body) (rest : Text) :
    piecesFrom 0 pending (.char '[' :: (body ++ .char ']' :: rest)) =
      .literal (backslashes (pending / 2)) ::
        (if pending % 2 = 0 then .tag body else .literal ([.char '['] ++ body ++ [.char ']'])) ::
        piecesFrom 0 0 rest := by
  rw [piecesFrom, if_neg (by decide), if_pos rfl, tagAfter?_of_inner isBody.inner isBody.begins]
  exact congrArg _ (congrArg _ (piecesFrom_behind body rest))

theorem piecesFrom_other (pending : Nat) (slash : point ≠ .char '\\') (opens : point ≠ .char '[')
    (rest : Text) : piecesFrom 0 pending (point :: rest) =
      .literal (backslashes pending ++ [point]) :: piecesFrom 0 0 rest := by
  rw [piecesFrom, if_neg slash, if_neg opens]

/-- What shows of pieces is never longer than the text that they are made of, and as long only if
that holds no markup. -/
theorem spoken_piecesFrom (pending : Nat) (text : Text) :
    (spoken (piecesFrom 0 pending text)).length ≤ pending + text.length ∧
      (pending + text.length ≤ (spoken (piecesFrom 0 pending text)).length →
        IsPlain (backslashes pending ++ text)) := by
  match text with
  | [] =>
      refine ⟨?_, fun _ => ?_⟩
      · simp [piecesFrom, spoken, backslashes]
      · exact (isPlain_backslashes_append pending).mpr ⟨by simp, isPlain_nil⟩
  | point :: rest =>
      by_cases slash : point = .char '\\'
      · obtain ⟨bound, exact⟩ := spoken_piecesFrom (pending + 1) rest
        subst slash
        rw [piecesFrom_slash, List.length_cons]
        refine ⟨by omega, fun whole => ?_⟩
        have plain := exact (by omega)
        rw [backslashes_succ, List.append_assoc] at plain
        exact plain
      · by_cases opens : point = .char '['
        · subst opens
          cases tag : tagAfter? rest with
          | none =>
              obtain ⟨bound, exact⟩ := spoken_piecesFrom 0 rest
              have size : (spoken (piecesFrom 0 pending (.char '[' :: rest))).length =
                  pending - 1 + 1 + (spoken (piecesFrom 0 0 rest)).length := by
                rw [piecesFrom_bracket pending tag]
                simp only [spoken, backslashes, List.length_append, List.length_replicate,
                  List.length_singleton]
              rw [size, List.length_cons]
              refine ⟨by omega, fun whole => ?_⟩
              have plain : IsPlain rest := exact (by omega)
              exact (isPlain_backslashes_append pending).mpr
                ⟨fun _ => by omega, isPlain_cons.mpr ⟨fun _ => tag, by simp, plain⟩⟩
          | some body =>
              obtain ⟨isBody, after, same⟩ := tagAfter?_eq_some_iff.mp tag
              have shorter : after.length < rest.length := by
                rw [← same, List.length_append, List.length_append, List.length_singleton]
                omega
              obtain ⟨bound, -⟩ := spoken_piecesFrom 0 after
              subst same
              -- A tag is left out, or a backslash before it.
              have less : (spoken (piecesFrom 0 pending
                  (.char '[' :: (body ++ .char ']' :: after)))).length <
                  pending + 1 + body.length + 1 + after.length := by
                rw [piecesFrom_tag pending isBody]
                split
                · simp only [spoken, backslashes, List.length_append, List.length_replicate]
                  omega
                · simp only [spoken, backslashes, List.length_append, List.length_replicate,
                    List.length_singleton]
                  omega
              rw [List.append_assoc, List.singleton_append, List.length_cons, List.length_append,
                List.length_cons]
              exact ⟨by omega, fun whole => by omega⟩
        · obtain ⟨bound, exact⟩ := spoken_piecesFrom 0 rest
          have size : (spoken (piecesFrom 0 pending (point :: rest))).length =
              pending + 1 + (spoken (piecesFrom 0 0 rest)).length := by
            rw [piecesFrom_other pending slash opens]
            simp only [spoken, backslashes, List.length_append, List.length_replicate,
              List.length_singleton]
          rw [size, List.length_cons]
          refine ⟨by omega, fun whole => ?_⟩
          have plain : IsPlain rest := exact (by omega)
          exact (isPlain_backslashes_append pending).mpr
            ⟨fun bracket => absurd (Option.some.inj bracket) opens,
              isPlain_cons.mpr ⟨fun same => absurd same opens, fun same => absurd same slash, plain⟩⟩
termination_by text.length
decreasing_by all_goals simp_wf <;> omega

/-- A text without markup is made of pieces that show, and together are the text. -/
theorem piecesFrom_of_plain (pending : Nat) (text : Text)
    (plain : IsPlain (backslashes pending ++ text)) :
    ∃ shown : List Text, piecesFrom 0 pending text = shown.map .literal ∧
      shown.flatten = backslashes pending ++ text := by
  induction text generalizing pending with
  | nil => exact ⟨[backslashes pending], rfl, by simp⟩
  | cons point rest induction =>
      obtain ⟨few, here⟩ := (isPlain_backslashes_append pending).mp plain
      obtain ⟨untagged, -, further⟩ := isPlain_cons.mp here
      by_cases slash : point = .char '\\'
      · subst slash
        have same : backslashes (pending + 1) ++ rest = backslashes pending ++ .char '\\' :: rest := by
          rw [backslashes_succ, List.append_assoc]
          rfl
        rw [piecesFrom_slash, ← same]
        exact induction (pending + 1) (same ▸ plain)
      · obtain ⟨shown, literally, together⟩ := induction 0 further
        refine ⟨(backslashes pending ++ [point]) :: shown, ?_, ?_⟩
        · by_cases opens : point = .char '['
          · subst opens
            rw [few rfl, piecesFrom_bracket 0 (untagged rfl), literally]
            rfl
          · rw [piecesFrom_other pending slash opens, literally]
            rfl
        · rw [List.flatten_cons, together, List.append_assoc]
          rfl

theorem render_of_plain (plain : IsPlain text) : render text = .ok (.ofText text) := by
  obtain ⟨shown, literally, together⟩ := piecesFrom_of_plain 0 text plain
  obtain ⟨literal, shows⟩ := showFrom_literals 0 [] shown []
  have rendered : render text = .ok ⟨literal, []⟩ := by
    unfold render pieces
    rw [literally, ← List.append_nil (shown.map Piece.literal)]
    refine shows.trans ?_
    simp [showFrom, Except.map]
  have same : literal = Styled.sanitise (spoken (pieces text)) := text_of_showFrom rendered
  rw [rendered, same, pieces, literally, spoken_literals, together]
  rfl

/-- Exactly a text without markup, and without controls that are left out, shows as it is. -/
theorem render_literally_iff : (∃ stretches, render text = .ok ⟨text, stretches⟩) ↔
    IsPlain text ∧ Styled.sanitise text = text := by
  constructor
  · rintro ⟨stretches, rendered⟩
    have shows : text = Styled.sanitise (spoken (pieces text)) := text_of_showFrom rendered
    obtain ⟨bound, exact⟩ := spoken_piecesFrom 0 text
    have kept : text.length ≤ (spoken (pieces text)).length := by
      calc text.length = (Styled.sanitise (spoken (pieces text))).length := congrArg _ shows
        _ ≤ (spoken (pieces text)).length := List.length_filter_le _ _
    have plain : IsPlain text := exact (by rwa [Nat.zero_add])
    have rendering := rendered.symm.trans (render_of_plain plain)
    exact ⟨plain, (congrArg Styled.text (Except.ok.inj rendering)).symm⟩
  · rintro ⟨plain, sanitised⟩
    refine ⟨[], ?_⟩
    rw [render_of_plain plain, Styled.ofText, sanitised]

end Markup

end HelperKit
