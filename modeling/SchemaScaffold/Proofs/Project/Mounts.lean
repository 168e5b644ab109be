import Mathlib.Logic.Function.Basic
import SchemaScaffold.Project

/-! The mounts of a project. Collections whose labels are made into one name share a
router, which is mounted where the first of them stands. -/

namespace SchemaScaffold.Project

/-! ## First occurrences -/

section FirstOccurrences

variable {α β : Type} [DecidableEq α] [DecidableEq β]

theorem nodup_eraseDups : (items : List α) → items.eraseDups.Nodup
  | [] => by simp
  | item :: rest => by
      rw [List.eraseDups_cons, List.nodup_cons]
      exact ⟨by simp, nodup_eraseDups (rest.filter fun other => !other == item)⟩
termination_by items => items.length
decreasing_by exact Nat.lt_succ_of_le (List.length_filter_le _ _)

theorem eraseDups_map {f : α → β} (injective : Function.Injective f) :
    (items : List α) → (items.map f).eraseDups = items.eraseDups.map f
  | [] => rfl
  | item :: rest => by
      have others : (rest.map f).filter (fun other => !other == f item)
          = (rest.filter fun other => !other == item).map f := by
        rw [List.filter_map]
        congr 2
        funext other
        simp [injective.eq_iff]
      rw [List.map_cons, List.eraseDups_cons, List.eraseDups_cons, List.map_cons, others,
        eraseDups_map injective (rest.filter fun other => !other == item)]
termination_by items => items.length
decreasing_by exact Nat.lt_succ_of_le (List.length_filter_le _ _)

/-- Adding what is not there yet, one by one, leaves the first occurrences. -/
theorem foldl_add_new (added seen : List α) :
    added.foldl (fun seen item => if seen.contains item then seen else seen ++ [item]) seen
      = seen ++ (added.filter fun item => !seen.contains item).eraseDups := by
  induction added generalizing seen with
  | nil => simp
  | cons item rest induction =>
      rw [List.foldl_cons, induction]
      cases isSeen : seen.contains item with
      | true => rw [if_pos rfl, List.filter_cons_of_neg (by rw [isSeen]; decide)]
      | false =>
          have later : rest.filter (fun other => !(seen ++ [item]).contains other)
              = (rest.filter fun other => !seen.contains other).filter
                  fun other => !other == item := by
            rw [List.filter_filter]
            congr 1
            funext other
            simp [beq_eq_decide, Bool.and_comm]
          rw [if_neg Bool.false_ne_true, List.filter_cons_of_pos (by rw [isSeen]; decide),
            List.eraseDups_cons, later, List.append_assoc]
          rfl

end FirstOccurrences

/-! ## Routers -/

/-- The collections that have files. -/
def emitted (collections : List Collection) : List Collection :=
  collections.filter Collection.hasDeclared

def routerNames (collections : List Collection) : List String :=
  ((emitted collections).map Collection.camel).eraseDups

/-- The path under which a router serves. -/
def servedAt (name : String) : String := "/api/" ++ (name ++ "s")

/-- A collection is mounted by its name alone. -/
def Mount.ofName (name : String) : Mount :=
  ⟨servedAt name, name ++ "Routes", "./routes/" ++ (name ++ ".routes." ++ "js")⟩

theorem Mount.ofName_injective : Function.Injective Mount.ofName := by
  intro name other same
  exact (String.append_left_inj _).mp (congrArg Mount.binding same)

theorem mounts_eq (collections : List Collection) :
    mounts collections = (routerNames collections).map Mount.ofName := by
  have allNew (added : List Mount) :
      added.filter (fun mount => !([] : List Mount).contains mount) = added :=
    List.filter_eq_self.mpr fun _ _ => rfl
  rw [mounts, Mount.ofCollections, foldl_add_new, allNew, List.nil_append, routerNames,
    ← eraseDups_map Mount.ofName_injective, List.map_map]
  rfl

/-- Two labels of one router, and a collection without files. -/
example :
    routerNames [⟨"order_item", [{ name := "title", typeTag := "string" }]⟩, ⟨"Customer", []⟩,
      ⟨"Order Item", [{ name := "count", typeTag := "number" }]⟩] = ["orderItem"] := by
  decide +kernel

theorem areRouters (collections : List Collection) :
    ∀ mount ∈ mounts collections, ∃ collection, mount = Mount.ofCollection collection := by
  intro mount isMount
  rw [mounts_eq] at isMount
  rcases List.mem_map.mp isMount with ⟨name, isName, rfl⟩
  rcases List.mem_map.mp (List.mem_eraseDups.mp isName) with ⟨collection, _, rfl⟩
  exact ⟨collection, rfl⟩

end SchemaScaffold.Project
