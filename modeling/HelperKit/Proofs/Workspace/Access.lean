import HelperKit.Proofs.Workspace.Operation

/-!
# What accesses do

One lemma says for each access what effects it has when it returns, and one which
effects it can have at all.
-/

namespace HelperKit

namespace Disk

theorem target_mem_reach_of_prefix (disk : Disk) {path : Path} {names : List Text}
    (shorter : names <+: path.parts) : disk.target ⟨path.anchor, names⟩ ∈ disk.reach path := by
  have passed : ∀ (location : Location) (names all : List Text), names <+: all →
      names.foldl next location ∈ stations location all := by
    intro location names
    induction names generalizing location with
    | nil => exact fun all _ => mem_stations_self location all
    | cons name names induction =>
        intro all shorter
        obtain ⟨rest, rfl⟩ := shorter
        exact List.mem_cons_of_mem _ (induction (next location name) _ (List.prefix_append _ _))
  exact passed (disk.start path) names path.parts shorter

end Disk

namespace Access

open Attempt

variable {allowed : Disk → Effect → Prop} {path : Path} {before after : Workspace}

/-! ## Single effects -/

theorem acts_performing {question : Disk → Except Fault Effect}
    (permits : ∀ disk effect, question disk = .ok effect → allowed disk effect) :
    Acts allowed (do perform (← ask question)) := by
  intro before
  unfold ActsOn
  rw [bind_apply, ask_apply]
  cases known : question before.disk with
  | error fault => exact ⟨[], .refl before, trivial⟩
  | ok effect =>
      exact ⟨[effect], before.reaches_perform effect, permits _ _ known, trivial⟩

theorem performing_eq_ok {question : Disk → Except Fault Effect}
    (returned : (do perform (← ask question) : Access Unit) before = (.ok (), after)) :
    ∃ effect, question before.disk = .ok effect ∧ after = before.perform effect := by
  rw [bind_eq_ok_iff] at returned
  obtain ⟨effect, between, asked, performed⟩ := returned
  obtain ⟨answer, rfl⟩ := ask_eq_ok_iff.mp asked
  cases performed
  exact ⟨effect, answer, rfl⟩

theorem acts_writeText (content : Text) (permits : ∀ disk location bytes,
    disk.openingFile path = .ok location → content.encode? = some bytes ∨ bytes = .empty →
      allowed disk (.writeFile location bytes)) :
    Acts allowed (writeText path content) := by
  intro before
  unfold ActsOn writeText
  rw [bind_apply, ask_apply]
  cases opened : before.disk.openingFile path with
  | error fault => exact ⟨[], .refl before, trivial⟩
  | ok location =>
      cases encoded : content.encode? with
      | some bytes =>
          exact ⟨[.writeFile location bytes], before.reaches_perform _,
            permits _ _ _ opened (.inl encoded), trivial⟩
      | none =>
          exact ⟨[.writeFile location .empty], before.reaches_perform _,
            permits _ _ _ opened (.inr rfl), trivial⟩

theorem writeText_eq_ok {content : Text}
    (returned : writeText path content before = (.ok (), after)) :
    ∃ location bytes, before.disk.openingFile path = .ok location ∧
      content.encode? = some bytes ∧ after = before.perform (.writeFile location bytes) := by
  rw [writeText, bind_eq_ok_iff] at returned
  obtain ⟨location, between, asked, written⟩ := returned
  obtain ⟨opened, rfl⟩ := ask_eq_ok_iff.mp asked
  cases encoded : content.encode? with
  | some bytes =>
      rw [encoded] at written
      cases written
      exact ⟨location, bytes, opened, rfl, rfl⟩
  | none =>
      rw [encoded] at written
      cases written

theorem acts_removeTree (permits : ∀ disk effect remaining,
    disk.removingTree path = .ok (effect, remaining) → allowed disk effect) :
    Acts allowed (removeTree path) := by
  intro before
  unfold ActsOn removeTree
  rw [bind_apply, ask_apply]
  cases removing : before.disk.removingTree path with
  | error fault => exact ⟨[], .refl before, trivial⟩
  | ok answer =>
      obtain ⟨effect, remaining⟩ := answer
      cases remaining with
      | none => exact ⟨[effect], before.reaches_perform effect, permits _ _ _ removing, trivial⟩
      | some fault =>
          exact ⟨[effect], before.reaches_perform effect, permits _ _ _ removing, trivial⟩

theorem removeTree_apply (path : Path) (before : Workspace) :
    removeTree path before =
      match before.disk.removingTree path with
      | .error fault => (.error fault, before)
      | .ok (effect, none) => (.ok (), before.perform effect)
      | .ok (effect, some fault) => (.error fault, before.perform effect) := by
  rw [removeTree, bind_apply, ask_apply]
  cases removing : before.disk.removingTree path with
  | error fault => rfl
  | ok answer =>
      obtain ⟨effect, remaining⟩ := answer
      cases remaining <;> rfl

/-! ## Directories -/

theorem makeDirectory_apply (path : Path) (before : Workspace) :
    makeDirectory path before =
      match before.disk.makingDirectory path with
      | .error fault => (.error fault, before)
      | .ok effect => (.ok (), before.perform effect) := by
  rw [makeDirectory, bind_apply, ask_apply]
  cases before.disk.makingDirectory path <;> rfl

theorem acts_provideDirectory (mayExist : Bool)
    (permits : ∀ disk effect, disk.makingDirectory path = .ok effect → allowed disk effect) :
    Acts allowed (provideDirectory mayExist path) := by
  refine acts_bind (acts_outcome (acts_performing permits)) fun result => ?_
  cases result with
  | ok => exact acts_pure ()
  | error fault =>
      cases fault with
      | system report =>
          simp only [provideDirectory.accept]
          split
          · exact acts_throw _
          · split
            · refine acts_bind (acts_ask _) fun found => ?_
              cases found
              · exact acts_throw _
              · exact acts_pure ()
            · exact acts_throw _
      | embeddedNull => exact acts_throw _
      | unencodable => exact acts_throw _
      | tooDeep => exact acts_throw _

theorem acts_provideAll {anchor : Anchor} (reversed : List Text) :
    ∀ (mayExist : Bool) (missing : Nat),
      (∀ disk names effect, names <+: reversed.reverse →
        disk.makingDirectory ⟨anchor, names⟩ = .ok effect → allowed disk effect) →
      Acts allowed (provideAll anchor mayExist missing reversed) := by
  -- By the names from the last one up; what is made further up has fewer names.
  induction reversed with
  | nil =>
      intro mayExist missing permits
      unfold provideAll
      exact acts_provideDirectory mayExist fun disk effect =>
        permits disk [] effect List.nil_prefix
  | cons part above induction =>
      intro mayExist missing permits
      have whole : ∀ mayExist,
          Acts allowed (provideDirectory mayExist ⟨anchor, (part :: above).reverse⟩) :=
        fun mayExist => acts_provideDirectory mayExist fun disk effect =>
          permits disk _ effect List.prefix_rfl
      unfold provideAll
      refine acts_bind (acts_outcome (whole mayExist)) fun result => ?_
      cases result with
      | ok => exact acts_pure ()
      | error fault =>
          cases fault with
          | system report =>
              simp only
              split
              · cases missing with
                | zero => exact acts_throw _
                | succ missing =>
                    refine acts_bind (induction true missing ?_) fun _ => whole mayExist
                    intro disk names effect shorter
                    refine permits disk names effect (shorter.trans ?_)
                    rw [List.reverse_cons]
                    exact List.prefix_append _ _
              · exact acts_throw _
          | embeddedNull => exact acts_throw _
          | unencodable => exact acts_throw _
          | tooDeep => exact acts_throw _

theorem acts_makeDirectories (mayExist : Bool)
    (permits : ∀ disk names effect, names <+: path.parts →
      disk.makingDirectory ⟨path.anchor, names⟩ = .ok effect → allowed disk effect) :
    Acts allowed (makeDirectories mayExist path) := by
  refine acts_provideAll path.parts.reverse mayExist maximumMissing ?_
  rw [List.reverse_reverse]
  exact permits

/-- A directory that may not exist yet is created by an effect of its own. -/
theorem provideDirectory_new_eq_ok
    (returned : provideDirectory false path before = (.ok (), after)) :
    ∃ effect, before.disk.makingDirectory path = .ok effect ∧ after = before.perform effect := by
  rw [provideDirectory, bind_apply, outcome_apply, makeDirectory_apply] at returned
  cases making : before.disk.makingDirectory path with
  | ok effect =>
      rw [making] at returned
      cases returned
      exact ⟨effect, rfl, rfl⟩
  | error fault =>
      rw [making] at returned
      cases fault with
      | system report =>
          simp only [provideDirectory.accept] at returned
          split at returned
          · cases returned
          · cases returned
      | embeddedNull => cases returned
      | unencodable => cases returned
      | tooDeep => cases returned

/-- A directory is created at once, or after the directories above it. -/
theorem provideAll_eq_ok {anchor : Anchor} {mayExist : Bool} {missing : Nat} {part : Text}
    {above : List Text}
    (returned : provideAll anchor mayExist missing (part :: above) before = (.ok (), after)) :
    provideDirectory mayExist ⟨anchor, (part :: above).reverse⟩ before = (.ok (), after) ∨
      ∃ fewer failed between,
        (provideDirectory mayExist ⟨anchor, (part :: above).reverse⟩ before).2 = failed ∧
        provideAll anchor true fewer above failed = (.ok (), between) ∧
        provideDirectory mayExist ⟨anchor, (part :: above).reverse⟩ between = (.ok (), after) := by
  unfold provideAll at returned
  rw [bind_apply, outcome_apply] at returned
  cases provided : provideDirectory mayExist ⟨anchor, (part :: above).reverse⟩ before with
  | mk result failed =>
      rw [provided] at returned
      cases result with
      | ok =>
          cases returned
          exact .inl rfl
      | error fault =>
          cases fault with
          | system report =>
              simp only at returned
              split at returned
              · cases missing with
                | zero => cases returned
                | succ fewer =>
                    obtain ⟨_, between, first, second⟩ := bind_eq_ok_iff.mp returned
                    exact .inr ⟨fewer, failed, between, rfl, first, second⟩
              · cases returned
          | embeddedNull => cases returned
          | unencodable => cases returned
          | tooDeep => cases returned

/-- A directory that may not exist yet is created last, after those above it. -/
theorem makeDirectories_new_eq_ok
    (permits : ∀ disk names effect, names <+: path.parts →
      disk.makingDirectory ⟨path.anchor, names⟩ = .ok effect → allowed disk effect)
    (returned : makeDirectories false path before = (.ok (), after)) :
    ∃ effects between effect, before.Reaches effects between ∧
      before.disk.Allows allowed effects ∧ between.disk.makingDirectory path = .ok effect ∧
      after = between.perform effect := by
  obtain ⟨anchor, parts⟩ := path
  unfold makeDirectories at returned
  cases reversed : parts.reverse with
  | nil =>
      have empty : parts = [] := by simpa using reversed
      subst empty
      obtain ⟨effect, making, rfl⟩ := provideDirectory_new_eq_ok returned
      exact ⟨[], before, effect, .refl before, trivial, making, rfl⟩
  | cons part above =>
      have whole : (part :: above).reverse = parts := by rw [← reversed, List.reverse_reverse]
      have shorter : above.reverse <+: parts := by
        rw [← whole, List.reverse_cons]
        exact List.prefix_append _ _
      simp only [reversed] at returned
      rcases provideAll_eq_ok returned with once | ⟨fewer, failed, between, same, first, second⟩
      · rw [whole] at once
        obtain ⟨effect, making, rfl⟩ := provideDirectory_new_eq_ok once
        exact ⟨[], before, effect, .refl before, trivial, making, rfl⟩
      · rw [whole] at same second
        obtain ⟨tried, tries, triesAllowed⟩ := acts_provideDirectory false
          (fun disk effect => permits disk parts effect List.prefix_rfl) before
        obtain ⟨effects, reaches, allows⟩ := acts_provideAll above true fewer
          (fun disk names effect below => permits disk names effect (below.trans shorter)) failed
        rw [same] at tries
        rw [first] at reaches
        obtain ⟨effect, making, rfl⟩ := provideDirectory_new_eq_ok second
        refine ⟨tried ++ effects, between, effect, tries.trans reaches, ?_, making, rfl⟩
        rw [Disk.allows_append, ← tries.disk]
        exact ⟨triesAllowed, allows⟩

theorem provideDirectory_present (present : before.disk.isDirectory path = .ok true) :
    provideDirectory true path before = (.ok (), before) := by
  obtain ⟨opens, directory⟩ := Disk.isDirectory_eq_true_iff.mp present
  have making : before.disk.makingDirectory path = Disk.refuse .alreadyExists path := by
    rw [Disk.makingDirectory, Disk.locate_eq_ok opens]
    simp only [directory]
  rw [provideDirectory, bind_apply, outcome_apply, makeDirectory_apply, making]
  simp only [Disk.refuse, provideDirectory.accept]
  rw [if_neg (by decide), if_pos trivial, bind_apply, ask_apply, present]
  rfl

theorem makeDirectories_present (present : before.disk.isDirectory path = .ok true) :
    makeDirectories true path before = (.ok (), before) := by
  obtain ⟨anchor, parts⟩ := path
  unfold makeDirectories
  have provided := provideDirectory_present present
  cases reversed : parts.reverse with
  | nil =>
      have empty : parts = [] := by simpa using reversed
      subst empty
      exact provided
  | cons part above =>
      have whole : (part :: above).reverse = parts := by rw [← reversed, List.reverse_reverse]
      unfold provideAll
      rw [bind_apply, outcome_apply, whole, provided]
      rfl

end Access

end HelperKit
