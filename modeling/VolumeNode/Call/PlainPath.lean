import VolumeNode.Call.Refusal
import VolumeNode.Text.Split

/-!
# Paths in requests

Paths of requests become arguments of tools and are compared with the mount table letter by letter.
So they must be plain: start at the root, have no `..` and hold no control character.

* `check` tells the first of these rules that a path breaks.
* `IsPlain` is all three rules together; `check_eq_ok_iff` says that these paths pass, and no
  others.
-/

namespace VolumeNode.PlainPath

/-- Whether a character is a control character (the class Cc). -/
def isControl (c : Char) : Bool :=
  c.toNat < 0x20 || (0x7F ≤ c.toNat && c.toNat < 0xA0)

/-- The names between the slashes of a path. -/
def components (path : String) : List (List Char) :=
  Text.splitOn (· == '/') path.toList

/-- Whether a path can be used, or the first rule that it breaks. -/
def check (path : String) : Except Refusal Unit :=
  if path.toList.head? ≠ some '/' then .error (.relativePath path)
  else if ['.', '.'] ∈ components path then .error .pathTraversal
  else if path.toList.any isControl then .error .controlCharacter
  else .ok ()

/-- A path that can be used. -/
structure IsPlain (path : String) : Prop where
  rooted : path.toList.head? = some '/'
  noTraversal : ['.', '.'] ∉ components path
  noControl : ∀ c ∈ path.toList, isControl c = false

theorem check_eq_ok_iff (path : String) : check path = .ok () ↔ IsPlain path := by
  unfold check
  by_cases h1 : path.toList.head? = some '/'
  · by_cases h2 : ['.', '.'] ∈ components path
    · simp only [h1, ne_eq, not_true_eq_false, if_false, h2, if_true]
      exact ⟨fun h => (by cases h), fun h => absurd h2 h.noTraversal⟩
    · by_cases h3 : path.toList.any isControl = true
      · simp only [h1, ne_eq, not_true_eq_false, if_false, h2, h3, if_true]
        refine ⟨fun h => (by cases h), fun h => ?_⟩
        obtain ⟨c, hc, hcc⟩ := List.any_eq_true.1 h3
        simp [h.noControl c hc] at hcc
      · simp only [h1, ne_eq, not_true_eq_false, if_false, h2, h3, Bool.false_eq_true, true_iff]
        exact ⟨h1, h2, fun c hc => by simpa using fun hcc => h3 (List.any_eq_true.2 ⟨c, hc, hcc⟩)⟩
  · simp only [ne_eq, h1, not_false_eq_true, if_true]
    exact ⟨fun h => (by cases h), fun h => absurd h.rooted h1⟩

end VolumeNode.PlainPath
