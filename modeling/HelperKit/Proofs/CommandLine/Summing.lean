import HelperKit.Proofs.CommandLine.Lifecycle
import HelperKit.Proofs.Console.Tabulating

/-!
# What sums up a first run

A first run ends with a table of the project that it has written.  The texts of the table are all
chosen from lists, but for the directory.  A directory whose name holds no markup is shown as it is,
and what is not shown so is taken for markup.  The codes of emoji, which a console may draw as
pictures, are left out of account: they are texts like any other here.
-/

namespace HelperKit

namespace Screen

variable {entries : List (Text × Text)} {entry : Text × Text} {table : Text} {point : CodePoint}

theorem Shows.mem (shows : Shows entries table) (listed : entry ∈ entries)
    (member : point ∈ entry.2) : point ∈ table := by
  obtain ⟨heading, rfl⟩ := shows
  have drawn : point ∈ entryLine '│' (widthFor Prod.fst entries) (widthFor Prod.snd entries)
      entry := by
    unfold entryLine
    simp only [List.mem_append, member, true_or, or_true]
  have within := List.mem_flatten_of_mem (List.mem_map_of_mem listed) drawn
  simp only [List.mem_append, within, true_or, or_true]

end Screen

namespace Text

/-- A text whose characters are all plain and open no bracket. -/
def IsSimple (text : Text) : Prop :=
  ∀ point ∈ text, (32 ≤ point.value ∧ point.value < 127) ∧ point ≠ .char '['

variable {text : Text}

instance (text : Text) : Decidable text.IsSimple :=
  inferInstanceAs (Decidable (∀ point ∈ text, _))

theorem IsSimple.isAscii (simple : text.IsSimple) : text.IsAscii :=
  fun point member => (simple point member).1

theorem IsSimple.isPlain (simple : text.IsSimple) : Markup.IsPlain text :=
  Markup.isPlain_of_notMem fun member => (simple _ member).2 rfl

theorem IsSimple.append {more : Text} (simple : text.IsSimple) (further : more.IsSimple) :
    (text ++ more).IsSimple := by
  intro point member
  exact (List.mem_append.mp member).elim (simple point) (further point)

theorem isSimple_join {separator : Text} {pieces : List Text} (between : separator.IsSimple)
    (simple : ∀ piece ∈ pieces, piece.IsSimple) : (join separator pieces).IsSimple := by
  unfold join
  match pieces with
  | [] => simp [IsSimple]
  | [piece] =>
      rw [List.intercalate_singleton]
      exact simple piece List.mem_cons_self
  | piece :: next :: pieces =>
      rw [List.forall_mem_cons] at simple
      rw [List.intercalate_cons_cons]
      exact (simple.1.append between).append (isSimple_join between simple.2)

end Text

namespace CommandLine

open Upkeep

variable {site : Site} {project : Project} {before between after : Workspace}
  {terminal asker : Terminal} {paths : List Path}

theorem isLiteral_of_isSimple {item value : Text} (named : item.IsSimple)
    (simple : value.IsSimple) : Screen.IsLiteral (item, value) where
  item := ⟨named.isAscii.isLegible, named.isPlain⟩
  value := ⟨simple.isAscii.isLegible, simple.isPlain⟩
  keeps := Cell.keepsEnd_of_ascii simple.isAscii

theorem isSimple_listing (features : List Feature) : (Site.listing features).IsSimple := by
  refine Text.isSimple_join (by decide) fun piece listed => ?_
  obtain ⟨feature, -, rfl⟩ := List.mem_map.mp listed
  cases feature <;> decide

theorem isLiteral_summary (directory : Screen.IsLiteral ("Directory", project.directory)) :
    ∀ entry ∈ summary project, Screen.IsLiteral entry := by
  have runtime : (Text.ofString project.runtime.name).IsSimple := by
    cases project.runtime <;> decide
  have layout : (Text.ofString project.layout.name).IsSimple := by
    cases project.layout <;> decide
  simp only [summary, List.forall_mem_cons]
  exact ⟨isLiteral_of_isSimple (by decide) runtime, directory,
    isLiteral_of_isSimple (by decide) (isSimple_listing _),
    isLiteral_of_isSimple (by decide) layout, by simp⟩

theorem stripEnd_of_asked
    (asked : inquire site (before, terminal) =
      (.ok (some (.materialize project false)), between, asker)) :
    project.directory.stripEnd = project.directory := by
  rcases call_of_inquire asked with ⟨recorded, -, makes⟩ | ⟨-, project, same, line, -, named, -⟩
  · cases makes _ rfl
  · cases same
    rw [← named]
    exact List.rdropWhile_idempotent CodePoint.isBlank _

/-- A run that has written an artifact shows what sums up its project. -/
theorem run_of_materialized
    (asked : inquire site (before, terminal) =
      (.ok (some (.materialize project false)), between, asker))
    (written : site.materialize project false between = (.ok paths, after)) :
    run site (before, terminal) =
      converse (Dialogue.present (Screen.summaryTable (summary project) "crabSafe"))
        (after, asker) := by
  have ran : ArtifactCall.run site (.materialize project false) between =
      (.ok (.wrote project), after) := by
    rw [ArtifactCall.run, Attempt.bind_apply, written]
    rfl
  rw [run_eq, Errand.bind_apply, asked]
  simp only
  rw [conduct, onDisk, Errand.bind_apply, Errand.onDisk_apply, ran]
  rfl

/-- A disk whose root holds a directory of a name. -/
def namedDisk (name : Text) : Disk where
  entries location := if location = [] ∨ location = [name] then some .directory else none
  home := []

/-- The site of a run without arguments. -/
def plainSite : Site :=
  ⟨.standard, .shipped⟩

/-- The beginning of a first run that is going to ask for the parsers in a directory. -/
def firstIn (directory : Text) : Workspace × Terminal :=
  (.on (namedDisk directory) .warning,
    { answers := [.line "2", .line directory, .line "2", .line "Parsers", .line "1"] })

/-- The project that is asked for. -/
def parsersProject (directory : Text) : Project :=
  ⟨.nodeJs, directory, .custom [.parsers] (by decide) (by decide), .singleFile⟩

theorem eq_of_fst {α β : Type} {value : α} {reached : α × β} (known : reached.1 = value) :
    reached = (value, reached.2) :=
  Prod.ext known rfl

/-- A name with brackets around no tag. -/
def bracketed : Text := "[X] a[1]"

theorem inquire_bracketed : (inquire plainSite (firstIn bracketed)).1 =
    .ok (some (.materialize (parsersProject bracketed) false)) := by
  decide +kernel

theorem materialize_bracketed : (plainSite.materialize (parsersProject bracketed) false
    (inquire plainSite (firstIn bracketed)).2.1).1 = .ok [.ofText "[X] a[1]/crabSafe.ts"] := by
  decide +kernel

/-- A name that is a tag. -/
def tagged : Text := "[b]"

theorem inquire_tagged : (inquire plainSite (firstIn tagged)).1 =
    .ok (some (.materialize (parsersProject tagged) false)) := by
  decide +kernel

theorem materialize_tagged : (plainSite.materialize (parsersProject tagged) false
    (inquire plainSite (firstIn tagged)).2.1).1 = .ok [.ofText "[b]/crabSafe.ts"] := by
  decide +kernel

end CommandLine

end HelperKit
