import SchemaScaffold.Proofs.Text.Pieces
import SchemaScaffold.Proofs.Workspace.Changes

/-! Where a path ends, and under which name. The name only depends on the text of
the path, so paths with different last names never lead to one location. -/

namespace SchemaScaffold.Workspace

namespace Path

theorem endsInSlash_iff {path : String} :
    endsInSlash path = true ↔ ∃ front, front ++ ['/'] = path.toList := by
  rw [endsInSlash, String.endsWith_eq_endsWith_toSlice, String.Slice.endsWith_string_iff]
  simp [List.IsSuffix]

/-- What follows the last slash of a path, or all of it. -/
def lastSegment (path : String) : Option String := (segments path).getLast?

theorem lastSegment_append_slash (front : List Char) (behind : String) :
    lastSegment (String.ofList (front ++ '/' :: behind.toList)) = lastSegment behind := by
  rw [lastSegment, lastSegment, segments, segments, Text.pieces, Text.pieces, String.toList_ofList,
    Text.splitWhere_append_cut rfl, List.map_append, List.getLast?_append]
  cases found : ((Text.splitWhere (· == '/') behind.toList).map String.ofList).getLast? with
  | some last => rfl
  | none =>
      rw [List.getLast?_eq_none_iff, List.map_eq_nil_iff] at found
      exact absurd found (Text.splitWhere_ne_nil _ _)

/-- A path below a folder ends as it does on its own. -/
theorem lastSegment_join (base path : String) :
    lastSegment (join base path) = lastSegment path := by
  rw [join]
  split
  · rfl
  · split
    · next ends =>
        rcases Bool.or_eq_true_iff.mp ends with isEmpty | slash
        · rw [String.isEmpty_iff.mp isEmpty, String.empty_append]
        · rcases endsInSlash_iff.mp slash with ⟨front, equal⟩
          have joined : base ++ path = String.ofList (front ++ '/' :: path.toList) := by
            apply String.toList_injective
            simp [← equal]
          rw [joined, lastSegment_append_slash]
    · have joined : base ++ "/" ++ path = String.ofList (base.toList ++ '/' :: path.toList) := by
        apply String.toList_injective
        simp
      rw [joined, lastSegment_append_slash]

theorem lastSegment_joinAll (base : String) (front : List String) (last : String) :
    lastSegment (joinAll base (front ++ [last])) = lastSegment last := by
  rw [joinAll, List.foldl_append]
  exact lastSegment_join _ _

end Path

namespace Disk

variable {disk disk' : Disk} {path : String} {location : Location}

/-- The path leads to this location, where there may be something or not. -/
def IsAt (disk : Disk) (path : String) (location : Location) : Prop :=
  ∃ parent name endsInSlash, disk.target path = .ok (.name parent name endsInSlash) ∧
    location = parent ++ [name]

theorem isAt_iff {parent : Location} {name : String} {endsInSlash : Bool}
    (leads : disk.target path = .ok (.name parent name endsInSlash)) :
    disk.IsAt path location ↔ location = parent ++ [name] := by
  constructor
  · rintro ⟨_, _, _, leads', equal⟩
    rw [leads] at leads'
    cases leads'
    exact equal
  · exact fun equal => ⟨parent, name, endsInSlash, leads, equal⟩

instance (disk : Disk) (path : String) (location : Location) :
    Decidable (disk.IsAt path location) :=
  match led : disk.target path with
  | .ok (.name _ _ _) => decidable_of_iff _ (isAt_iff led).symm
  | .ok (.folder _) => .isFalse (by simp [IsAt, led])
  | .error _ => .isFalse (by simp [IsAt, led])

namespace IsAt

theorem keeps (isAt : disk.IsAt path location) (keeps : KeepsFolders disk disk') :
    disk'.IsAt path location := by
  rcases isAt with ⟨parent, name, endsInSlash, leads, equal⟩
  exact ⟨parent, name, endsInSlash, keeps.target leads, equal⟩

/-- A path that led somewhere leads to no other place. -/
theorem of_keeps {target : Target} (isAt : disk'.IsAt path location)
    (keeps : KeepsFolders disk disk') (leads : disk.target path = .ok target) :
    disk.IsAt path location := by
  rcases isAt with ⟨parent, name, endsInSlash, leads', equal⟩
  rw [keeps.target leads] at leads'
  cases leads'
  exact ⟨parent, name, endsInSlash, leads, equal⟩

theorem unique {other : Location} (isAt : disk.IsAt path location) (isAt' : disk.IsAt path other) :
    location = other := by
  rcases isAt with ⟨_, _, _, leads, rfl⟩
  rcases isAt' with ⟨_, _, _, leads', rfl⟩
  rw [leads] at leads'
  cases leads'
  rfl

end IsAt

theorem follow_getLast? {folder : Location} {endsInSlash : Bool} {segments : List String}
    {target : Target} {last : String}
    (followed : disk.follow folder endsInSlash segments = .ok target)
    (ends : segments.getLast? = some last) (named : isName last = true) :
    ∃ parent, target = .name parent last endsInSlash := by
  induction segments generalizing folder with
  | nil => cases ends
  | cons segment rest induction =>
      cases rest with
      | nil =>
          have isLast : segment = last := Option.some.inj ends
          subst isLast
          rw [follow, if_pos named] at followed
          cases followed
          exact ⟨folder, rfl⟩
      | cons next others =>
          rw [follow] at followed
          split at followed
          · cases followed
          · exact induction followed (by rwa [List.getLast?_cons_cons] at ends)

theorem namedSegments_of_lastSegment {last : String} (ends : Path.lastSegment path = some last)
    (named : isName last = true) : namedSegments path = Path.segments path := by
  have notEmpty : (last == "") = false := by
    cases isEmpty : last == "" with
    | false => rfl
    | true =>
        rw [eq_of_beq isEmpty] at named
        cases named
  rcases List.getLast?_eq_some_iff.mp ends with ⟨front, equal⟩
  rw [namedSegments, equal, List.reverse_append]
  simp [notEmpty]

/-- A path that ends in a name leads to this name, wherever that is. -/
theorem target_of_lastSegment {target : Target} {last : String}
    (leads : disk.target path = .ok target) (ends : Path.lastSegment path = some last)
    (named : isName last = true) :
    ∃ parent, target = .name parent last (Path.endsInSlash path) := by
  rw [Disk.target] at leads
  split at leads
  · cases leads
  · split at leads
    · cases leads
    · split at leads
      · cases leads
      · rw [namedSegments_of_lastSegment ends named] at leads
        exact follow_getLast? leads ends named

theorem exists_isAt {target : Target} {last : String} (leads : disk.target path = .ok target)
    (ends : Path.lastSegment path = some last) (named : isName last = true) :
    ∃ location, disk.IsAt path location := by
  rcases target_of_lastSegment leads ends named with ⟨parent, rfl⟩
  exact ⟨_, parent, last, _, leads, rfl⟩

theorem IsAt.getLast? {last : String} (isAt : disk.IsAt path location)
    (ends : Path.lastSegment path = some last) (named : isName last = true) :
    location.getLast? = some last := by
  rcases isAt with ⟨parent, name, endsInSlash, leads, rfl⟩
  rcases target_of_lastSegment leads ends named with ⟨_, equal⟩
  cases equal
  exact List.getLast?_concat

end Disk

end SchemaScaffold.Workspace
