import HelperKit.Disk

/-!
# What a lookup sees

Looking a path up comes by a finite number of locations, which are known without
the disk.  Two disks with the same entries at these locations give the same
answer for the path, so that a disk need only be known there.
-/

namespace HelperKit

namespace Disk

/-- The locations that names lead through, with the first and the last. -/
def stations (location : Location) : List Text → List Location
  | [] => [location]
  | name :: names => location :: stations (next location name) names

theorem mem_stations_self (location : Location) (names : List Text) :
    location ∈ stations location names := by
  cases names <;> simp [stations]

/-- A walk depends on its stations alone. -/
theorem walk_congr {disk other : Disk} {location : Location} {names : List Text}
    (agree : ∀ station ∈ stations location names, disk.entries station = other.entries station) :
    disk.walk location names = other.walk location names := by
  induction names generalizing location with
  | nil => rfl
  | cons name names induction =>
      have here := agree location (mem_stations_self _ _)
      have further := induction fun station member =>
        agree station (List.mem_cons_of_mem _ member)
      simp only [walk, ← here]
      cases disk.entries location with
      | none => rfl
      | some entry =>
          cases entry with
          | file bytes => rfl
          | directory =>
              simp only
              split
              · rfl
              · exact further

/-- A walk that arrives ends at a station. -/
theorem mem_stations_of_walk {disk : Disk} {location final : Location} {names : List Text}
    (arrived : disk.walk location names = .ok final) : final ∈ stations location names := by
  induction names generalizing location with
  | nil =>
      cases arrived
      exact mem_stations_self _ _
  | cons name names induction =>
      refine List.mem_cons_of_mem _ (induction ?_)
      simp only [walk] at arrived
      split at arrived
      · cases arrived
      · cases arrived
      · split at arrived
        · cases arrived
        · exact arrived

/-- The locations that a path leads through. -/
def reach (disk : Disk) (path : Path) : List Location :=
  stations (disk.start path) path.parts

/-- What a path leads to depends on its reach alone. -/
theorem status_congr {disk other : Disk} {path : Path} (home : disk.home = other.home)
    (agree : ∀ station ∈ disk.reach path, disk.entries station = other.entries station) :
    disk.status path = other.status path := by
  have origin : disk.start path = other.start path := by
    simp only [start, home]
  have walked : disk.walk (disk.start path) path.parts =
      other.walk (other.start path) path.parts := by
    rw [← origin]
    exact walk_congr agree
  unfold status locate
  cases vet path with
  | error fault => rfl
  | ok =>
      simp only [walked]
      cases arrived : other.walk (other.start path) path.parts with
      | error errno => rfl
      | ok location =>
          have station : location ∈ disk.reach path :=
            mem_stations_of_walk (walked.trans arrived)
          simp only [agree location station]

end Disk

end HelperKit
