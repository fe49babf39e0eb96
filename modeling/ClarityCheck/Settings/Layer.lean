import ClarityCheck.Json.Basic

/-!
# Layers of settings

A layer is an object with some of the settings. A higher layer goes over a lower one: what it has
replaces what is below, and objects on both sides are put together member by member.

Main statements: `lookup_above_of_none` and `lookup_above_of_scalar` (a member that the higher layer
lacks stays, and one that it has as something other than an object comes from it).
-/

namespace ClarityCheck.Settings

/-- The members of an object. No name occurs twice. -/
abbrev Layer := List (String × Json)

namespace Layer

/-- Sets a member. -/
def put (l : Layer) (name : String) (v : Json) : Layer :=
  match l with
  | [] => [(name, v)]
  | (n, w) :: rest => if n = name then (n, v) :: rest else (n, w) :: put rest name v

theorem lookup_put (l : Layer) (name other : String) (v : Json) :
    (l.put name v).lookup other = if other = name then some v else l.lookup other := by
  induction l with
  | nil =>
    by_cases h : other = name
    · simp [put, h]
    · have hb : (other == name) = false := by simpa using h
      simp [put, List.lookup_cons, h, hb]
  | cons m rest ih =>
    obtain ⟨n, w⟩ := m
    by_cases hn : n = name
    · subst hn
      by_cases ho : other = n
      · simp [put, ho]
      · have hb : (other == n) = false := by simpa using ho
        simp [put, List.lookup_cons, ho, hb]
    · by_cases ho : other = n
      · subst ho
        simp [put, hn]
      · have hb : (other == n) = false := by simpa using ho
        simp [put, hn, List.lookup_cons, hb, ih]

end Layer

mutual

/-- A value over another one. -/
def overlay (lower : Json) : Json → Json
  | .obj upper =>
    match lower with
    | .obj members => .obj (overlayMembers members upper)
    | _ => .obj upper
  | v => v

/-- The members of an object over those of another one. -/
def overlayMembers (lower : List (String × Json)) : List (String × Json) → List (String × Json)
  | [] => lower
  | (name, v) :: rest =>
    let v := match lower.lookup name with
      | some w => overlay w v
      | none => v
    overlayMembers (Layer.put lower name v) rest

end

namespace Layer

/-- A layer over a lower one. -/
def above (upper lower : Layer) : Layer := overlayMembers lower upper

/-- A member that the higher layer lacks stays. -/
theorem lookup_above_of_none {upper lower : Layer} {name : String}
    (h : upper.lookup name = none) : (upper.above lower).lookup name = lower.lookup name := by
  unfold above
  induction upper generalizing lower with
  | nil => simp [overlayMembers]
  | cons m rest ih =>
    obtain ⟨n, v⟩ := m
    rw [List.lookup_cons] at h
    by_cases hn : name = n
    · simp [hn] at h
    · have hb : (name == n) = false := by simpa using hn
      rw [hb] at h
      rw [overlayMembers, ih h, lookup_put, if_neg hn]

/-- A member that the higher layer has as something other than an object comes from it. -/
theorem lookup_above_of_scalar {upper lower : Layer} {name : String} {v : Json}
    (h : upper.lookup name = some v) (once : (upper.map (·.1)).Nodup) (hv : ∀ ms, v ≠ .obj ms) :
    (upper.above lower).lookup name = some v := by
  unfold above
  induction upper generalizing lower with
  | nil => simp at h
  | cons m rest ih =>
    obtain ⟨n, w⟩ := m
    rw [List.map_cons, List.nodup_cons] at once
    rw [List.lookup_cons] at h
    rw [overlayMembers]
    by_cases hn : name = n
    · subst hn
      simp only [beq_self_eq_true, Option.some.injEq] at h
      subst h
      have hrest : rest.lookup name = none := by
        rw [List.lookup_eq_none_iff]
        intro p hp
        have : p.1 ≠ name := fun e => once.1 (List.mem_map.2 ⟨p, hp, e⟩)
        simpa using Ne.symm this
      have key := @lookup_above_of_none rest (lower.put name
        (match lower.lookup name with
          | some u => overlay u w
          | none => w)) name hrest
      unfold above at key
      rw [key, lookup_put, if_pos rfl]
      cases lower.lookup name with
      | none => rfl
      | some u =>
        cases w with
        | obj ms => exact absurd rfl (hv ms)
        | _ => rfl
    · have hb : (name == n) = false := by simpa using hn
      rw [hb] at h
      exact ih h once.2

end Layer

end ClarityCheck.Settings
