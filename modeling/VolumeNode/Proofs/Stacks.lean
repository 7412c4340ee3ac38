import Mathlib.Logic.Function.Basic
import VolumeNode.Proofs.Formats

/-!
# One stack for each path

A table in memory is one list for all paths. It is searched from its end, entries are taken out of
its middle, and a bind copies from one path to another; still each path has a stack of its own.

* `Stacks` are independent stacks. They are told of each request that succeeded and of what others
  mount (`Stacks.after`, `stacksAfter`); of the table they know no more than its answers.
* `StackStep` is what one action does to a table and to stacks that are told of it (`stack_step`).
  INVARIANT `MemoryTable.Holds`: the entries at each path are those of its stack. Every action keeps
  it, so every course of events does (`Holds.run`).
* `MemoryTable.IsStacked` says what is seen of the stacks: which requests succeed, what a bind
  shows, and that nothing is seen of other paths.
* **`MemoryTable.stack_per_path`**: that is so after every course of events, and each entry that
  nobody else has inserted has exactly one of the options `ro` and `rw`.
-/

namespace VolumeNode

open MemoryTable (system)

/-! ## 1. Stacks -/

/-- A stack for each path, the topmost entry first. -/
abbrev Stacks := String → List MountEntry

namespace Stacks

/-- Nothing is mounted anywhere. -/
def empty : Stacks := fun _ => []

/-- Puts an entry on the stack of its path. -/
def push (st : Stacks) (e : MountEntry) : Stacks :=
  Function.update st e.path (e :: st e.path)

/-- Takes the topmost entry off the stack of a path. -/
def pop (st : Stacks) (path : String) : Stacks :=
  Function.update st path (st path).tail

/-- The entry of a bind, which shows what is topmost at its source. -/
def bound (st : Stacks) (source target : String) (flags : List String) : MountEntry :=
  match st source with
  | top :: _ => ⟨top.device, top.source, target, top.fsType, MemoryTable.optionsOf flags⟩
  | [] => ⟨"none", source, target, "none", MemoryTable.optionsOf flags⟩

/-- A request that fails leaves the stacks as they are. -/
def onSuccess (st changed : Stacks) : Except MountFailure Unit → Stacks
  | .ok () => changed
  | .error _ => st

/-- The stacks after an action. A mount or a bind that succeeds puts an entry on the stack of its
    target, an unmount that succeeds takes one off. -/
def after (st : Stacks) (w : MemoryWorld) : Action → Stacks
  | .mount source target fsType flags =>
    st.onSuccess
      (st.push (MemoryTable.deviceEntry (MemoryTable.nodeOf w.tree source) target fsType flags))
      (system.mount source target fsType flags w.tree w.mounts).1
  | .mountFormatted source target fsType flags =>
    st.onSuccess
      (st.push (MemoryTable.deviceEntry (MemoryTable.nodeOf w.tree source) target fsType flags))
      (system.mountFormatted source target fsType flags w.tree w.mounts).1
  | .bindTo source target flags =>
    st.onSuccess (st.push (st.bound source target flags))
      (system.bindTo source target flags w.tree w.mounts).1
  | .unmount target =>
    st.onSuccess (st.pop target) (system.unmount target w.tree w.mounts).1
  | _ => st

@[simp] theorem push_self (st : Stacks) (e : MountEntry) :
    st.push e e.path = e :: st e.path :=
  Function.update_self ..

theorem push_of_ne {st : Stacks} {e : MountEntry} {path : String} (h : path ≠ e.path) :
    st.push e path = st path :=
  Function.update_of_ne h ..

@[simp] theorem pop_self (st : Stacks) (path : String) :
    st.pop path path = (st path).tail :=
  Function.update_self ..

theorem pop_of_ne {st : Stacks} {target path : String} (h : path ≠ target) :
    st.pop target path = st path :=
  Function.update_of_ne h ..

end Stacks

/-- The stacks after an event: each of its actions tells, and so does what others mount. -/
def TableEvent.stacksAfter (st : Stacks) (w : MemoryWorld) : TableEvent → Stacks
  | .insert e => st.push e
  | event => (event.steps w).foldl (fun st step => st.after step.1 step.2) st

/-- The stacks after a course of events. -/
def stacksAfter (st : Stacks) (w : MemoryWorld) : List TableEvent → Stacks
  | [] => st
  | event :: events => stacksAfter (event.stacksAfter st w) (event.run w) events

/-! ## 2. Tables that hold stacks -/

namespace MemoryTable

/-- The entries at each path are those of its stack. -/
def Holds (s : MemoryTable) (st : Stacks) : Prop :=
  ∀ path, s.entriesAt path = (st path).reverse

variable {s s' : MemoryTable} {st : Stacks}

theorem entriesAt_congr (h : s'.entries = s.entries) (path : String) :
    s'.entriesAt path = s.entriesAt path := by
  unfold entriesAt
  rw [h]

theorem Holds.congr (h : s.Holds st) (hs : s'.entries = s.entries) : s'.Holds st :=
  fun path => (entriesAt_congr hs path).trans (h path)

theorem Holds.push (h : s.Holds st) {e : MountEntry} (hs : s'.entries = s.entries ++ [e]) :
    s'.Holds (st.push e) := by
  intro path
  have hpath : s.entries.filter (·.path == path) = (st path).reverse := h path
  unfold entriesAt
  rw [hs, List.filter_append, hpath]
  by_cases he : path = e.path
  · subst he
    simp
  · rw [Stacks.push_of_ne he]
    simp [Ne.symm he]

theorem Holds.pop (h : s.Holds st) {target : String}
    (hs : popAt target s.entries = some s'.entries) : s'.Holds (st.pop target) := by
  intro path
  have hpath : s.entries.filter (·.path == path) = (st path).reverse := h path
  unfold entriesAt
  rw [filter_popAt hs, hpath]
  by_cases he : path = target
  · subst he
    rw [if_pos rfl, Stacks.pop_self]
    cases st path <;> simp
  · rw [if_neg he, Stacks.pop_of_ne he]

/-- The last entry at a path is the top of its stack, and that is what a bind shows. -/
theorem Holds.bindEntry (h : s.Holds st) (source target : String) (flags : List String) :
    s.bindEntry source target flags = st.bound source target flags := by
  unfold MemoryTable.bindEntry Stacks.bound
  rw [h source, List.getLast?_reverse]
  cases st source <;> rfl

end MemoryTable

/-! ## 3. One action -/

/-- Exactly one of the options is `ro` or `rw`. -/
def MountEntry.HasOneMode (e : MountEntry) : Prop :=
  e.options.count "ro" + e.options.count "rw" = 1

theorem MemoryTable.hasOneMode_deviceEntry (node target fsType : String) (flags : List String) :
    (deviceEntry node target fsType flags).HasOneMode :=
  count_optionsOf flags

theorem MemoryTable.hasOneMode_bindEntry (s : MemoryTable) (source target : String)
    (flags : List String) : (s.bindEntry source target flags).HasOneMode := by
  unfold MountEntry.HasOneMode
  rw [options_bindEntry]
  exact count_optionsOf flags

/-- The path that an action mounts something on, or unmounts. -/
def Action.mountPoint? : Action → Option String
  | .mount _ target .. | .mountFormatted _ target .. | .bindTo _ target _ | .unmount target =>
    some target
  | _ => none

/-- What an action makes of the entries of a table, and of the stacks that these are. -/
inductive StackStep (w : MemoryWorld) (a : Action) (s : MemoryTable) : Prop
  | kept (entries : s.entries = w.mounts.entries)
      (told : ∀ st : Stacks, st.after w a = st)
  | pushed {e : MountEntry} (entries : s.entries = w.mounts.entries ++ [e])
      (place : a.mountPoint? = some e.path) (mode : e.HasOneMode)
      (told : ∀ st, w.mounts.Holds st → st.after w a = st.push e)
  | popped {target : String} (entries : MemoryTable.popAt target w.mounts.entries = some s.entries)
      (place : a.mountPoint? = some target)
      (told : ∀ st : Stacks, st.after w a = st.pop target)

namespace StackStep

variable {w : MemoryWorld} {a : Action} {kind : MountRequest}

/-- A refused request does nothing. -/
theorem of_refused {changed : Stacks → Stacks} {reply : Except MountFailure Unit × MemoryTable}
    (hrefused : kind ∈ w.mounts.refused)
    (hafter : ∀ st : Stacks,
      st.after w a = st.onSuccess (changed st) (w.mounts.answer kind reply).1) :
    StackStep w a (w.mounts.answer kind reply).2 := by
  rw [MemoryTable.answer_of_refused hrefused] at hafter ⊢
  exact .kept rfl hafter

/-- A request enters something, if it is not refused. -/
theorem of_entered {changed : Stacks → Stacks} {s : MemoryTable} {e : MountEntry}
    (hafter : ∀ st : Stacks,
      st.after w a = st.onSuccess (changed st) (w.mounts.answer kind (.ok (), s)).1)
    (entries : s.entries = w.mounts.entries ++ [e]) (place : a.mountPoint? = some e.path)
    (mode : e.HasOneMode)
    (hchanged : ∀ st, w.mounts.Holds st → changed st = st.push e) :
    StackStep w a (w.mounts.answer kind (.ok (), s)).2 := by
  by_cases hrefused : kind ∈ w.mounts.refused
  · exact of_refused hrefused hafter
  · rw [MemoryTable.answer_of_allowed hrefused] at hafter ⊢
    exact .pushed entries place mode fun st h => (hafter st).trans (hchanged st h)

theorem of_unmount (w : MemoryWorld) (target : String) :
    StackStep w (.unmount target) (w.mounts.answer .unmount (w.mounts.unmountAt target)).2 := by
  have hafter : ∀ st : Stacks, st.after w (.unmount target) =
      st.onSuccess (st.pop target)
        (w.mounts.answer .unmount (w.mounts.unmountAt target)).1 := fun _ => rfl
  by_cases hrefused : MountRequest.unmount ∈ w.mounts.refused
  · exact of_refused hrefused hafter
  · rw [MemoryTable.answer_of_allowed hrefused] at hafter ⊢
    unfold MemoryTable.unmountAt at hafter ⊢
    cases hpop : MemoryTable.popAt target w.mounts.entries with
    | some rs =>
      rw [hpop] at hafter
      exact .popped hpop rfl hafter
    | none =>
      rw [hpop] at hafter
      exact .kept rfl hafter

/-- An action makes no entries but such with one mode. -/
theorem mem_entries {s : MemoryTable} (h : StackStep w a s) {e : MountEntry} (he : e ∈ s.entries) :
    e ∈ w.mounts.entries ∨ e.HasOneMode := by
  cases h with
  | kept entries => exact .inl (entries ▸ he)
  | pushed entries place mode told =>
    rw [entries, List.mem_append, List.mem_singleton] at he
    rcases he with he | rfl
    · exact .inl he
    · exact .inr mode
  | popped entries place told =>
    obtain ⟨x, _, _, hsub, _⟩ := MemoryTable.exists_top_of_popAt entries
    exact .inl (hsub.subset he)

end StackStep

theorem stack_step (w : MemoryWorld) (a : Action) :
    StackStep w a (a.perform system w).2.mounts := by
  cases a with
  | findDevice | stat | lstat | makeDirectory | removeDirectory | entries =>
    exact .kept (congrArg MemoryTable.entries (MemoryTable.mounts_perform w rfl)) fun _ => rfl
  | mount source target fsType flags =>
    exact .of_entered (fun _ => rfl) rfl rfl (MemoryTable.hasOneMode_deviceEntry ..) fun _ _ => rfl
  | mountFormatted source target fsType flags =>
    refine .of_entered (fun _ => rfl) ?_ rfl (MemoryTable.hasOneMode_deviceEntry ..) fun _ _ => rfl
    rw [MemoryTable.entries_insert, MemoryTable.entries_formatIfBlank]
  | bindTo source target flags =>
    exact .of_entered (fun _ => rfl) rfl (congrArg some (MemoryTable.path_bindEntry ..).symm)
      (MemoryTable.hasOneMode_bindEntry ..) fun st h => by rw [h.bindEntry]
  | unmount target => exact .of_unmount w target

/-! ## 4. Courses of events -/

namespace MemoryTable

variable {w : MemoryWorld} {st : Stacks}

/-- **An action does to the table what it does to the stacks.** -/
theorem Holds.action (h : w.mounts.Holds st) (a : Action) :
    (a.perform system w).2.mounts.Holds (st.after w a) := by
  cases stack_step w a with
  | kept entries told =>
    rw [told]
    exact h.congr entries
  | pushed entries place mode told =>
    rw [told st h]
    exact h.push entries
  | popped entries place told =>
    rw [told]
    exact h.pop entries

theorem Holds.procedure {α : Type} (h : w.mounts.Holds st) (p : Procedure α) :
    (p.run system w).2.mounts.Holds
      ((p.steps system w).foldl (fun st step => st.after step.1 step.2) st) := by
  induction p generalizing w st with
  | done a => exact h
  | act a next ih => exact ih _ (h.action a)

theorem Holds.event (h : w.mounts.Holds st) (event : TableEvent) :
    (event.run w).mounts.Holds (event.stacksAfter st w) := by
  cases event with
  | call naming r => exact h.procedure (r.procedure naming)
  | request a => exact h.action a
  | insert e => exact h.push rfl
  | setFilesystem | refuse | allowAll | outside => exact h

/-- **Every course of events keeps a stack for each path.** -/
theorem Holds.run (h : w.mounts.Holds st) (events : List TableEvent) :
    (runEvents events w).mounts.Holds (stacksAfter st w events) := by
  induction events generalizing w st with
  | nil => exact h
  | cons event events ih => exact ih (h.event event)

end MemoryTable

theorem mem_entries_procedure {α : Type} (p : Procedure α) {w : MemoryWorld} {e : MountEntry}
    (he : e ∈ (p.run system w).2.mounts.entries) : e ∈ w.mounts.entries ∨ e.HasOneMode := by
  refine p.keeps_run
    (P := fun v : MemoryWorld => e ∈ v.mounts.entries → e ∈ w.mounts.entries ∨ e.HasOneMode)
    (fun a v hv hmem => ?_) Or.inl he
  exact ((stack_step v a).mem_entries hmem).elim hv .inr

/-- All entries were there, or have one mode, or were inserted by others. -/
theorem mem_entries_runEvents {w : MemoryWorld} {events : List TableEvent} {e : MountEntry}
    (he : e ∈ (runEvents events w).mounts.entries) :
    e ∈ w.mounts.entries ∨ e.HasOneMode ∨ .insert e ∈ events := by
  induction events generalizing w with
  | nil => exact .inl he
  | cons event events ih =>
    rcases ih (w := event.run w) he with hmem | hmode | hinserted
    · have hstep : e ∈ w.mounts.entries ∨ e.HasOneMode ∨ event = .insert e := by
        cases event with
        | call naming r => exact (mem_entries_procedure _ hmem).imp_right .inl
        | request a => exact ((stack_step w a).mem_entries hmem).imp_right .inl
        | insert e' =>
          rcases List.mem_append.1 hmem with hmem | hlast
          · exact .inl hmem
          · rw [List.mem_singleton.1 hlast]
            exact .inr (.inr rfl)
        | setFilesystem | refuse | allowAll | outside => exact .inl hmem
      rcases hstep with hmem | hmode | rfl
      · exact .inl hmem
      · exact .inr (.inl hmode)
      · exact .inr (.inr List.mem_cons_self)
    · exact .inr (.inl hmode)
    · exact .inr (.inr (List.mem_cons_of_mem _ hinserted))

/-! ## 5. What is seen of the stacks -/

/-- An entry shows the top of the stack at a source; of an empty stack it only names the source. -/
inductive MountEntry.ShowsTop (source : String) (e : MountEntry) : List MountEntry → Prop
  | top {top : MountEntry} {below : List MountEntry} (device : e.device = top.device)
      (origin : e.source = top.source) (fsType : e.fsType = top.fsType) :
      ShowsTop source e (top :: below)
  | bare (device : e.device = "none") (origin : e.source = source) (fsType : e.fsType = "none") :
      ShowsTop source e []

namespace MemoryTable

/-- A table is a stack for each path. -/
structure IsStacked (s : MemoryTable) (st : Stacks) : Prop where
  /-- The entries at a path are its stack. The oldest comes first in the table. -/
  entriesAt : ∀ path, s.entriesAt path = (st path).reverse
  /-- What is done at other paths is not seen at a path. -/
  others : ∀ t (a : Action) path, a.mountPoint? ≠ some path →
    (a.perform system ⟨t, s⟩).2.mounts.entriesAt path = s.entriesAt path
  inserted : ∀ (e : MountEntry) path, e.path ≠ path →
    (s.insert e).entriesAt path = s.entriesAt path
  /-- Mounts and binds succeed exactly if they are not refused. -/
  entered : ∀ t source target fsType flags,
    ((system.mount source target fsType flags t s).1 = .ok () ↔ MountRequest.mount ∉ s.refused) ∧
      ((system.mountFormatted source target fsType flags t s).1 = .ok () ↔
        MountRequest.mountFormatted ∉ s.refused) ∧
      ((system.bindTo source target flags t s).1 = .ok () ↔ MountRequest.bindTo ∉ s.refused)
  /-- An unmount succeeds exactly if it is not refused and the stack is not empty. -/
  unmount : ∀ t path, (system.unmount path t s).1 = .ok () ↔
    MountRequest.unmount ∉ s.refused ∧ st path ≠ []
  /-- A bind that succeeds makes one entry, which shows the top of the stack at its source. -/
  bindTo : ∀ t source target flags, (system.bindTo source target flags t s).1 = .ok () →
    ∃ e, (system.bindTo source target flags t s).2.entries = s.entries ++ [e] ∧
      e.path = target ∧ e.ShowsTop source (st source)
  /-- The entry that an action makes has one mode. -/
  mode : ∀ t (a : Action) e, (a.perform system ⟨t, s⟩).2.mounts.entries = s.entries ++ [e] →
    e.HasOneMode

variable {s s' : MemoryTable} {st : Stacks}

theorem entriesAt_insert_of_ne {e : MountEntry} {path : String} (h : e.path ≠ path) :
    (s.insert e).entriesAt path = s.entriesAt path := by
  unfold entriesAt
  rw [entries_insert, List.filter_append]
  simp [h]

theorem entriesAt_perform_of_ne (t : FileTree) {a : Action} {path : String}
    (h : a.mountPoint? ≠ some path) :
    (a.perform system ⟨t, s⟩).2.mounts.entriesAt path = s.entriesAt path := by
  cases stack_step ⟨t, s⟩ a with
  | kept entries => exact entriesAt_congr entries path
  | @pushed e entries place mode told =>
    have hne : e.path ≠ path := fun he => h (he ▸ place)
    have hsame : (a.perform system ⟨t, s⟩).2.mounts.entriesAt path = (s.insert e).entriesAt path :=
      entriesAt_congr entries path
    rw [hsame, entriesAt_insert_of_ne hne]
  | @popped target entries place told =>
    have hne : path ≠ target := fun he => h (he ▸ place)
    unfold entriesAt
    rw [filter_popAt entries, if_neg hne]

theorem hasOneMode_of_perform {t : FileTree} {a : Action} {e : MountEntry}
    (h : (a.perform system ⟨t, s⟩).2.mounts.entries = s.entries ++ [e]) : e.HasOneMode := by
  cases stack_step ⟨t, s⟩ a with
  | kept entries =>
    rw [entries] at h
    simp at h
  | pushed entries place mode told =>
    rw [entries] at h
    have he := List.append_cancel_left h
    simp only [List.cons.injEq, and_true] at he
    exact he ▸ mode
  | popped entries place told =>
    obtain ⟨x, _, _, hsub, _⟩ := exists_top_of_popAt entries
    have hle := hsub.length_le
    rw [h, List.length_append, List.length_singleton] at hle
    exact absurd hle (Nat.not_succ_le_self _)

theorem answer_eq_ok_iff {kind : MountRequest} :
    (s.answer kind (Except.ok (), s')).1 = .ok () ↔ kind ∉ s.refused := by
  by_cases hrefused : kind ∈ s.refused
  · rw [answer_of_refused hrefused]
    simp [hrefused]
  · rw [answer_of_allowed hrefused]
    simp [hrefused]

theorem Holds.unmount_eq_ok_iff (h : s.Holds st) (t : FileTree) (path : String) :
    (system.unmount path t s).1 = .ok () ↔
      MountRequest.unmount ∉ s.refused ∧ st path ≠ [] := by
  have hempty : popAt path s.entries = none ↔ st path = [] := by
    have hpath : s.entries.filter (·.path == path) = (st path).reverse := h path
    rw [popAt_eq_none_iff_filter, hpath, List.reverse_eq_nil_iff]
  by_cases hrefused : MountRequest.unmount ∈ s.refused
  · rw [unmount_of_refused hrefused]
    simp [hrefused]
  · cases hpop : popAt path s.entries with
    | some rs =>
      rw [unmount_of_popAt hpop hrefused]
      simp [hrefused, ← hempty, hpop]
    | none =>
      have hfails : system.unmount path t s = s.unmountAt path := answer_of_allowed hrefused _
      rw [hfails, unmountAt, hpop]
      simp [hempty.1 hpop]

theorem Holds.showsTop (h : s.Holds st) (source target : String) (flags : List String) :
    (s.bindEntry source target flags).ShowsTop source (st source) := by
  rw [h.bindEntry]
  unfold Stacks.bound
  cases st source with
  | nil => exact .bare rfl rfl rfl
  | cons top below => exact .top rfl rfl rfl

theorem Holds.bindTo (h : s.Holds st) {t : FileTree} {source target : String}
    {flags : List String} (hok : (system.bindTo source target flags t s).1 = .ok ()) :
    ∃ e, (system.bindTo source target flags t s).2.entries = s.entries ++ [e] ∧
      e.path = target ∧ e.ShowsTop source (st source) := by
  by_cases hrefused : MountRequest.bindTo ∈ s.refused
  · rw [bindTo_of_refused hrefused] at hok
    cases hok
  · rw [bindTo_of_allowed hrefused]
    exact ⟨_, rfl, path_bindEntry .., h.showsTop ..⟩

theorem Holds.isStacked (h : s.Holds st) : s.IsStacked st where
  entriesAt := h
  others _ _ _ := entriesAt_perform_of_ne _
  inserted _ _ := entriesAt_insert_of_ne
  entered _ _ _ _ _ := ⟨answer_eq_ok_iff, answer_eq_ok_iff, answer_eq_ok_iff⟩
  unmount := h.unmount_eq_ok_iff
  bindTo _ _ _ _ := h.bindTo
  mode _ _ _ := hasOneMode_of_perform

/-- **A table in memory is a stack for each path.** This holds after every course of events from an
    empty table; and each entry then has one mode, or others have inserted it. -/
theorem stack_per_path (tree : FileTree) (events : List TableEvent) :
    (runEvents events ⟨tree, .empty⟩).mounts.IsStacked
        (stacksAfter .empty ⟨tree, .empty⟩ events) ∧
      ∀ e ∈ (runEvents events ⟨tree, .empty⟩).mounts.entries,
        e.HasOneMode ∨ .insert e ∈ events := by
  have hstart : (⟨tree, .empty⟩ : MemoryWorld).mounts.Holds .empty := fun _ => rfl
  refine ⟨(hstart.run events).isStacked, fun e he => ?_⟩
  exact (mem_entries_runEvents he).resolve_left List.not_mem_nil

/-- A bind shows the upper one of two mounts and outlasts it; a refused unmount leaves the lower. -/
example : ["/s", "/p"].map (stacksAfter .empty smallWorld
    [.request (.mount "/l/xa" "/s" "xfs" ["ro"]), .request (.mount "/l/xb" "/s" "ext4" []),
      .request (.bindTo "/s" "/p" ["rw", "noexec"]), .request (.unmount "/s"), .refuse .unmount,
      .request (.unmount "/s")]) =
    [[⟨"/d/m", "/d/m", "/s", "xfs", ["ro"]⟩],
      [⟨"/d/n", "/d/n", "/p", "ext4", ["rw", "noexec"]⟩]] := by
  decide +kernel

end MemoryTable

end VolumeNode
