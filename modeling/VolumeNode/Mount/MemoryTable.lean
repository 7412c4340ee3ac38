import VolumeNode.Mount.System

/-!
# The mount table in memory

A mount system that keeps the table itself and asks no tools.

* `MemoryTable` holds the entries in the order of mounting, the filesystem of each device, how
  often each was formatted, and the requests that it refuses.
* A mount enters the node behind the given device, a bind enters what is topmost at its source once
  more, and an unmount takes the topmost entry of a path away (`popAt`).
* `optionsOf` puts `ro` or `rw` in front of the other flags.
* An unmount shortens the stack of its own path by one and leaves all others alone
  (`filter_popAt`); it finds nothing exactly where that stack is empty (`popAt_eq_none_iff`).
-/

namespace VolumeNode

/-! ## 1. State -/

/-- The kinds of requests. -/
inductive MountRequest where
  | entries
  | mount
  | mountFormatted
  | bindTo
  | unmount
deriving DecidableEq, Repr

/-- The tool that a refused request is reported for. -/
def MountRequest.command : MountRequest → String
  | entries => "mountinfo"
  | mount | bindTo => "mount"
  | mountFormatted => "mkfs"
  | unmount => "umount"

/-- A mount table with what it knows about devices. -/
structure MemoryTable where
  /-- The entries, oldest first. -/
  entries : List MountEntry
  /-- The filesystem of each device that has one, newest first. -/
  filesystems : List (String × String)
  /-- How often each device was formatted, newest first. -/
  formats : List (String × Nat)
  /-- The requests that are refused. -/
  refused : List MountRequest
deriving DecidableEq, Repr

namespace MemoryTable

/-- No mounts, no filesystems, no refusals. -/
def empty : MemoryTable := ⟨[], [], [], []⟩

/-- The filesystem of a device. -/
def filesystem? (s : MemoryTable) (device : String) : Option String :=
  s.filesystems.lookup device

/-- How often a device was formatted. -/
def timesFormatted (s : MemoryTable) (device : String) : Nat :=
  (s.formats.lookup device).getD 0

/-- The entries at a path, oldest first. -/
def entriesAt (s : MemoryTable) (path : String) : List MountEntry :=
  s.entries.filter (·.path == path)

/-! ## 2. Changes from outside -/

/-- Adds an entry, as another program's mount would. -/
def insert (s : MemoryTable) (r : MountEntry) : MemoryTable :=
  { s with entries := s.entries ++ [r] }

/-- Notes the filesystem of a device. -/
def setFilesystem (s : MemoryTable) (device fsType : String) : MemoryTable :=
  { s with filesystems := (device, fsType) :: s.filesystems }

/-- Refuses a kind of requests from now on. -/
def refuse (s : MemoryTable) (call : MountRequest) : MemoryTable :=
  { s with refused := call :: s.refused }

/-- Refuses nothing any more. -/
def allowAll (s : MemoryTable) : MemoryTable :=
  { s with refused := [] }

/-! ## 3. Answers -/

/-- Answers a request, unless it is refused. -/
def answer {α : Type} (s : MemoryTable) (call : MountRequest)
    (reply : Except MountFailure α × MemoryTable) : Except MountFailure α × MemoryTable :=
  if call ∈ s.refused then (.error (.toolFailed call.command "injected failure"), s)
  else reply

theorem answer_of_refused {α : Type} {s : MemoryTable} {call : MountRequest}
    (h : call ∈ s.refused) (reply : Except MountFailure α × MemoryTable) :
    s.answer call reply = (.error (.toolFailed call.command "injected failure"), s) :=
  if_pos h

theorem answer_of_allowed {α : Type} {s : MemoryTable} {call : MountRequest}
    (h : call ∉ s.refused) (reply : Except MountFailure α × MemoryTable) :
    s.answer call reply = reply :=
  if_neg h

/-- The node behind a path; a path that leads nowhere stands for itself. -/
def nodeOf (t : FileTree) (source : String) : String :=
  match t.canonical source with
  | .ok node => node
  | .error _ => source

/-- The options of a mount with some flags. -/
def optionsOf (flags : List String) : List String :=
  (if "ro" ∈ flags then "ro" else "rw") :: flags.filter fun f => f ≠ "ro" ∧ f ≠ "rw"

/-- The entry of a device mounted on a path. -/
def deviceEntry (node target fsType : String) (flags : List String) : MountEntry :=
  ⟨node, node, target, fsType, optionsOf flags⟩

/-- Makes a filesystem on a device that has none. -/
def formatIfBlank (s : MemoryTable) (node fsType : String) : MemoryTable :=
  match s.filesystem? node with
  | some _ => s
  | none =>
    { s with
      filesystems := (node, fsType) :: s.filesystems
      formats := (node, s.timesFormatted node + 1) :: s.formats }

/-- The entry of a bind: it shows what is topmost at its source. -/
def bindEntry (s : MemoryTable) (source target : String) (flags : List String) : MountEntry :=
  match (s.entriesAt source).getLast? with
  | some r => ⟨r.device, r.source, target, r.fsType, optionsOf flags⟩
  | none => ⟨"none", source, target, "none", optionsOf flags⟩

/-- Takes the last entry at a path away. -/
def popAt (path : String) : List MountEntry → Option (List MountEntry)
  | [] => none
  | r :: rest =>
    match popAt path rest with
    | some rest' => some (r :: rest')
    | none => if r.path = path then some rest else none

/-- Whether a path was unmounted, and the table afterwards. -/
def unmountAt (s : MemoryTable) (target : String) : Except MountFailure Unit × MemoryTable :=
  match popAt target s.entries with
  | some entries => (.ok (), { s with entries })
  | none => (.error (.toolFailed "umount" (target ++ ": not mounted")), s)

/-- The table as a mount system. -/
def system : MountSystem MemoryTable where
  entries _ s := s.answer .entries (.ok s.entries, s)
  mount source target fsType flags t s :=
    s.answer .mount (.ok (), s.insert (deviceEntry (nodeOf t source) target fsType flags))
  mountFormatted source target fsType flags t s :=
    s.answer .mountFormatted
      (.ok (), (s.formatIfBlank (nodeOf t source) fsType).insert
        (deviceEntry (nodeOf t source) target fsType flags))
  bindTo source target flags _ s :=
    s.answer .bindTo (.ok (), s.insert (s.bindEntry source target flags))
  unmount target _ s := s.answer .unmount (s.unmountAt target)

/-! ## 4. What a path sees -/

theorem popAt_eq_none_iff (path : String) (rs : List MountEntry) :
    popAt path rs = none ↔ ∀ r ∈ rs, r.path ≠ path := by
  induction rs with
  | nil => simp [popAt]
  | cons r rest ih =>
    unfold popAt
    cases h : popAt path rest with
    | some rest' =>
      have : ¬ ∀ r ∈ rest, r.path ≠ path := fun hall => by simp [ih.2 hall] at h
      simp only [List.mem_cons, ne_eq]
      constructor
      · intro hc; cases hc
      · intro hall
        exact absurd (fun q hq => hall q (Or.inr hq)) this
    | none =>
      have hrest := ih.1 h
      by_cases hr : r.path = path
      · simp [hr]
      · simp only [hr, if_false, List.mem_cons, ne_eq, true_iff]
        rintro q (rfl | hq)
        · exact hr
        · exact hrest q hq

/-- An unmount takes one entry off its own path and none off any other. -/
theorem filter_popAt {path : String} {rs rs' : List MountEntry} (h : popAt path rs = some rs')
    (q : String) :
    rs'.filter (·.path == q) =
      if q = path then (rs.filter (·.path == q)).dropLast else rs.filter (·.path == q) := by
  induction rs generalizing rs' with
  | nil => simp [popAt] at h
  | cons r rest ih =>
    unfold popAt at h
    cases hp : popAt path rest with
    | some rest' =>
      rw [hp] at h
      simp only [Option.some.injEq] at h
      subst h
      have ih := ih hp
      have hne : rest.filter (·.path == path) ≠ [] := by
        intro he
        have : popAt path rest = none := by
          rw [popAt_eq_none_iff]
          intro x hx hxp
          have : x ∈ rest.filter (·.path == path) := by simp [hx, hxp]
          simp [he] at this
        simp [this] at hp
      by_cases hq : q = path
      · subst hq
        rw [if_pos rfl] at ih ⊢
        by_cases hr : (r.path == q) = true
        · simp [hr, ih, List.dropLast_cons_of_ne_nil hne]
        · simp [hr, ih]
      · rw [if_neg hq] at ih ⊢
        simp [List.filter_cons, ih]
    | none =>
      rw [hp] at h
      by_cases hr : r.path = path
      · simp only [hr, if_true, Option.some.injEq] at h
        subst h
        have hnone := (popAt_eq_none_iff path rest).1 hp
        by_cases hq : q = path
        · subst hq
          have he : rest.filter (·.path == q) = [] := by
            rw [List.filter_eq_nil_iff]
            intro x hx
            simpa using hnone x hx
          simp [hr, he]
        · have : (r.path == q) = false := by simp [hr, Ne.symm hq]
          simp [hq, this]
      · simp [hr] at h

end MemoryTable

end VolumeNode
