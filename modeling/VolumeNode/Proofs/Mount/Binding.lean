import VolumeNode.Proofs.Call.Success
import VolumeNode.Proofs.Commands

/-!
# Binds that get their options

A bind ignores options, so it is remounted with them; and if that fails it is taken back, so that
nothing stays writable that was asked for to be read only.

* `BindCourse` lists the courses of attempts that bind a directory, with their results
  (`bindTo_course`).
* `BindsWholly` says which courses there are, which answers lead to each attempt, and which of them
  the result is made of.
* **`binds_wholly`**: that is so for every bench, that is for every way in which the tools answer.
  And a call that publishes a volume for reading only with commands, and succeeds, has remounted it
  with `ro` as the last option.
-/

namespace VolumeNode

namespace ToolBench

/-! ## 1. The courses of a bind -/

/-- Binds a directory to another one. -/
def bindCommand (source target : String) : Command := ⟨"mount", ["--bind", source, target]⟩

/-- The options that a bind is remounted with. -/
def remountOptions (flags : List String) : String :=
  String.intercalate "," ("remount" :: "bind" :: flags)

/-- Gives a bind its options. -/
def remountCommand (target : String) (flags : List String) : Command :=
  ⟨"mount", ["-o", remountOptions flags, target]⟩

/-- Takes a bind back. -/
def undoCommand (target : String) : Command := ⟨"umount", [target]⟩

/-- The courses of attempts that bind a directory, with their results. -/
inductive BindCourse (source target : String) (flags : List String) :
    List Attempt → Except MountFailure Unit → Prop
  /-- There is no bind. -/
  | refused {o : Outcome} {e : MountFailure} (bind : demand "mount" o = .error e) :
      BindCourse source target flags [⟨bindCommand source target, o⟩] (.error e)
  /-- There are no options to set. -/
  | plain {o : Outcome} (bind : demand "mount" o = .ok ()) (none : flags = []) :
      BindCourse source target flags [⟨bindCommand source target, o⟩] (.ok ())
  | set {o o' : Outcome} (bind : demand "mount" o = .ok ()) (some : flags ≠ [])
      (remount : demand "mount" o' = .ok ()) :
      BindCourse source target flags
        [⟨bindCommand source target, o⟩, ⟨remountCommand target flags, o'⟩] (.ok ())
  /-- The options could not be set. -/
  | undone {o o' o'' : Outcome} {e : MountFailure} (bind : demand "mount" o = .ok ())
      (some : flags ≠ []) (remount : demand "mount" o' = .error e) :
      BindCourse source target flags
        [⟨bindCommand source target, o⟩, ⟨remountCommand target flags, o'⟩,
          ⟨undoCommand target, o''⟩] (.error e)

section Course

variable {b b₁ b₂ : ToolBench} {source target : String} {flags : List String}

theorem remountOptions_of_some (h : flags ≠ []) :
    remountOptions flags = "remount,bind," ++ String.intercalate "," flags := by
  obtain ⟨flag, rest, rfl⟩ := List.exists_cons_of_ne_nil h
  apply String.toList_inj.1
  simp [remountOptions, String.toList_intercalate]

/-- A command that has to succeed is one attempt, and its outcome is the answer. -/
theorem exists_run (b : ToolBench) (program : String) (arguments : List String) :
    ∃ o, (b.run program arguments).1 = demand program o ∧
      (b.run program arguments).2.attempts = b.attempts ++ [⟨⟨program, arguments⟩, o⟩] :=
  ⟨_, rfl, b.attempts_run _ _⟩

theorem bindTo_of_refused {e : MountFailure}
    (hbind : b.run "mount" ["--bind", source, target] = (.error e, b₁)) :
    b.bindTo source target flags = (.error e, b₁) := by
  unfold bindTo
  rw [hbind]

theorem bindTo_of_plain (hbind : b.run "mount" ["--bind", source, target] = (.ok (), b₁))
    (hflags : flags = []) : b.bindTo source target flags = (.ok (), b₁) := by
  unfold bindTo
  rw [hbind]
  exact if_pos hflags

theorem bindTo_of_set (hbind : b.run "mount" ["--bind", source, target] = (.ok (), b₁))
    (hflags : flags ≠ [])
    (hremount : b₁.run "mount" ["-o", remountOptions flags, target] = (.ok (), b₂)) :
    b.bindTo source target flags = (.ok (), b₂) := by
  rw [remountOptions_of_some hflags] at hremount
  unfold bindTo
  rw [hbind]
  dsimp only
  rw [if_neg hflags, hremount]

theorem bindTo_of_undone {e : MountFailure}
    (hbind : b.run "mount" ["--bind", source, target] = (.ok (), b₁)) (hflags : flags ≠ [])
    (hremount : b₁.run "mount" ["-o", remountOptions flags, target] = (.error e, b₂)) :
    b.bindTo source target flags = (.error e, (b₂.run "umount" [target]).2) := by
  rw [remountOptions_of_some hflags] at hremount
  unfold bindTo
  rw [hbind]
  dsimp only
  rw [if_neg hflags, hremount]

variable (b source target flags)

/-- These are all courses there are. -/
theorem bindTo_course :
    ∃ new, (b.bindTo source target flags).2.attempts = b.attempts ++ new ∧
      BindCourse source target flags new (b.bindTo source target flags).1 := by
  obtain ⟨o, hanswer, hbound⟩ := exists_run b "mount" ["--bind", source, target]
  cases hbind : b.run "mount" ["--bind", source, target] with
  | mk answer b₁ =>
    rw [hbind] at hanswer hbound
    dsimp only at hanswer hbound
    cases answer with
    | error e =>
      rw [bindTo_of_refused hbind]
      exact ⟨_, hbound, .refused hanswer.symm⟩
    | ok u =>
      by_cases hflags : flags = []
      · rw [bindTo_of_plain hbind hflags]
        exact ⟨_, hbound, .plain hanswer.symm hflags⟩
      · obtain ⟨o', hreply, hset⟩ := exists_run b₁ "mount" ["-o", remountOptions flags, target]
        cases hremount : b₁.run "mount" ["-o", remountOptions flags, target] with
        | mk reply b₂ =>
          rw [hremount] at hreply hset
          dsimp only at hreply hset
          rw [hbound, List.append_assoc] at hset
          cases reply with
          | ok u =>
            rw [bindTo_of_set hbind hflags hremount]
            exact ⟨_, hset, .set hanswer.symm hflags hreply.symm⟩
          | error e =>
            obtain ⟨o'', _, hundone⟩ := exists_run b₂ "umount" [target]
            rw [hset, List.append_assoc] at hundone
            rw [bindTo_of_undone hbind hflags hremount]
            exact ⟨_, hundone, .undone hanswer.symm hflags hreply.symm⟩

end Course

/-! ## 2. What leads to each attempt -/

/-- A directory was bound with its options, or the first failure was told. -/
structure BindsWholly (source target : String) (flags : List String) (new : List Attempt)
    (result : Except MountFailure Unit) : Prop where
  /-- The attempts are one of three sequences. -/
  sequence : new.map (·.command) ∈
    [[bindCommand source target],
      [bindCommand source target, remountCommand target flags],
      [bindCommand source target, remountCommand target flags, undoCommand target]]
  /-- A bind that has options is remounted. -/
  remount : Attempted new (remountCommand target flags) (fun _ => True) ↔
    Attempted new (bindCommand source target) (·.Exited 0) ∧ flags ≠ []
  /-- A bind that did not get its options is taken back. -/
  undo : Attempted new (undoCommand target) (fun _ => True) ↔
    Attempted new (bindCommand source target) (·.Exited 0) ∧
      Attempted new (remountCommand target flags) fun o => ¬ o.Exited 0
  success : result = .ok () ↔ ∀ a ∈ new, a.outcome.Exited 0
  /-- The error is that of the first attempt that failed, and this one took nothing back. -/
  failure : ∀ e, result = .error e → ∃ before a after, new = before ++ a :: after ∧
    (∀ x ∈ before, x.outcome.Exited 0) ∧ demand a.command.program a.outcome = .error e ∧
      a.command ≠ undoCommand target

theorem not_exited_of_demand {program : String} {o : Outcome} {e : MountFailure}
    (h : demand program o = .error e) : ¬ o.Exited 0 := by
  rw [← @demand_eq_ok_iff program, h]
  exact nofun

/-- The two mounts have different arguments. -/
theorem bindCommand_ne_remountCommand (source target : String) (flags : List String) :
    bindCommand source target ≠ remountCommand target flags := by
  intro h
  have harguments := congrArg (fun c : Command => c.arguments.head?) h
  exact absurd harguments (by simp [bindCommand, remountCommand])

theorem undoCommand_ne_of_mount {c : Command} (h : c.program = "mount") (target : String) :
    c ≠ undoCommand target := by
  intro hsame
  rw [hsame] at h
  exact absurd h (by simp [undoCommand])

/-- **Every course binds wholly.** -/
theorem BindCourse.whole {source target : String} {flags : List String} {new : List Attempt}
    {result : Except MountFailure Unit} (hcourse : BindCourse source target flags new result) :
    BindsWholly source target flags new result := by
  have hbr := bindCommand_ne_remountCommand source target flags
  have hbu := undoCommand_ne_of_mount (c := bindCommand source target) rfl target
  have hru := undoCommand_ne_of_mount (c := remountCommand target flags) rfl target
  cases hcourse with
  | @refused o e bind =>
    have hbind := not_exited_of_demand bind
    refine ⟨by simp, ?remount, ?undo, ?success, ?failure⟩
    case remount => simp [Attempted, hbr, hbind]
    case undo => simp [Attempted, hbu, hbind]
    case success => simp [hbind]
    case failure =>
      intro e' he
      cases he
      exact ⟨[], _, [], rfl, nofun, bind, hbu⟩
  | @plain o bind none =>
    subst none
    have hbind := demand_eq_ok_iff.1 bind
    refine ⟨by simp, ?remount, ?undo, ?success, nofun⟩
    case remount => simp [Attempted, hbr]
    case undo => simp [Attempted, hbu, hbr]
    case success => simp [hbind]
  | @set o o' bind some remount =>
    have hbind := demand_eq_ok_iff.1 bind
    have hremount := demand_eq_ok_iff.1 remount
    refine ⟨by simp, ?remount, ?undo, ?success, nofun⟩
    case remount => simp [Attempted, hbind, some]
    case undo => simp [Attempted, hbu, hru, hbr, hremount]
    case success => simp [hbind, hremount]
  | @undone o o' o'' e bind some remount =>
    have hbind := demand_eq_ok_iff.1 bind
    have hremount := not_exited_of_demand remount
    refine ⟨by simp, ?remount, ?undo, ?success, ?failure⟩
    case remount => simp [Attempted, hbind, some]
    case undo => simp [Attempted, hbind, hremount]
    case success => simp [hremount]
    case failure =>
      intro e' he
      cases he
      exact ⟨[_], _, [_], rfl, by simpa using hbind, remount, hru⟩

/-- A bind with options that succeeded is two commands that both did. -/
theorem BindCourse.set_of_ok {source target : String} {flags : List String} {new : List Attempt}
    (hcourse : BindCourse source target flags new (.ok ())) (hflags : flags ≠ []) :
    ∃ o o', new = [⟨bindCommand source target, o⟩, ⟨remountCommand target flags, o'⟩] ∧
      o.Exited 0 ∧ o'.Exited 0 := by
  cases hcourse with
  | plain bind none => exact absurd none hflags
  | set bind some remount =>
    exact ⟨_, _, rfl, demand_eq_ok_iff.1 bind, demand_eq_ok_iff.1 remount⟩

/-! ## 3. Every bench -/

/-- The last option of a remount that reads only is `ro`. -/
theorem endsReadOnly_remountOptions (flags : List String) :
    EndsReadOnly (remountOptions (flags ++ ["ro"])) :=
  endsReadOnly_concat ("remount" :: "bind" :: flags)

/-- **A bind never stays without its options unnoticed**, whatever the tools answer. So a call that
    publishes a volume for reading only succeeds without a command, or has run a remount whose last
    option is `ro`. -/
theorem binds_wholly :
    (∀ (b : ToolBench) (source target : String) (flags : List String),
      ∃ new, (b.bindTo source target flags).2.attempts = b.attempts ++ new ∧
        BindsWholly source target flags new (b.bindTo source target flags).1) ∧
    ∀ (naming : DeviceNaming) (r : PublishRequest) (w w' : World ToolBench),
      r.readOnly = true → (Call.publish r).run system naming w = (.ok (), w') →
      w'.mounts.attempts ≠ w.mounts.attempts →
      ∃ plan o o', MountPlan.ofRequest r.capability = .ok plan ∧
        w'.mounts.attempts = w.mounts.attempts ++ [⟨bindCommand r.staging r.target, o⟩,
          ⟨remountCommand r.target (plan.flags ++ ["ro"]), o'⟩] ∧
        o.Exited 0 ∧ o'.Exited 0 ∧ EndsReadOnly (remountOptions (plan.flags ++ ["ro"])) := by
  refine ⟨fun b source target flags => ?_, fun naming r w w' hreads hrun hissues => ?_⟩
  · obtain ⟨new, hadded, hcourse⟩ := bindTo_course b source target flags
    exact ⟨new, hadded, hcourse.whole⟩
  · cases Call.publish_success hrun with
    | present device made listed shown fits =>
      obtain ⟨_, rfl⟩ := Prod.mk.inj listed
      exact absurd rfl hissues
    | @bound d tree plan rs s s' device made planned listed hidden granted =>
      obtain ⟨_, rfl⟩ := Prod.mk.inj listed
      have hflags : Handler.publishFlags plan.flags r.readOnly = plan.flags ++ ["ro"] :=
        if_pos hreads
      have hanswer : w.mounts.bindTo r.staging r.target (plan.flags ++ ["ro"]) = (.ok (), s') :=
        hflags ▸ granted
      obtain ⟨new, hadded, hcourse⟩ :=
        bindTo_course w.mounts r.staging r.target (plan.flags ++ ["ro"])
      rw [hanswer] at hadded hcourse
      obtain ⟨o, o', rfl, hbind, hremount⟩ := hcourse.set_of_ok (by simp)
      exact ⟨plan, o, o', planned, hadded, hbind, hremount,
        endsReadOnly_remountOptions plan.flags⟩

/-- Here a remount fails, and so does the unmount that takes the bind back. -/
def stuckBench : ToolBench where
  installed := allTools
  script := [("mount", [.ran .silent, .ran ⟨.exited 32, [], [0x6E, 0x6F]⟩]),
    ("umount", [.ran ⟨.exited 16, [], [0x62, 0x75, 0x73, 0x79]⟩])]
  table := ""
  attempts := []
  metrics := []

/-- The error is that of the remount. And a volume that is published for reading only, with a flag
    that asks for writing, was remounted with `ro` behind that flag. -/
theorem binds_wholly_stuckBench :
    BindsWholly "/s" "/p" ["noexec"] (stuckBench.bindTo "/s" "/p" ["noexec"]).2.attempts
        (.error (.toolFailed "mount" "no")) ∧
      (stuckBench.bindTo "/s" "/p" ["noexec"]).2.started =
        [bindCommand "/s" "/p", remountCommand "/p" ["noexec"], undoCommand "/p"] ∧
      ∃ o o', ((Call.publish readerPublish).run system smallNaming shownWorld).2.mounts.attempts =
          shownWorld.mounts.attempts ++
            [⟨bindCommand "/s" "/p", o⟩, ⟨remountCommand "/p" ["rw", "ro"], o'⟩] ∧
        o.Exited 0 ∧ o'.Exited 0 := by
  refine ⟨?_, by decide +kernel, ?_⟩
  · obtain ⟨new, hadded, hwhole⟩ := binds_wholly.1 stuckBench "/s" "/p" ["noexec"]
    have hnew : (stuckBench.bindTo "/s" "/p" ["noexec"]).2.attempts = new := hadded
    have hfailed : (stuckBench.bindTo "/s" "/p" ["noexec"]).1 =
        .error (.toolFailed "mount" "no") := by
      decide +kernel
    rw [hnew, ← hfailed]
    exact hwhole
  · have hok : ((Call.publish readerPublish).run system smallNaming shownWorld).1 = .ok () := by
      decide +kernel
    obtain ⟨plan, o, o', hplan, hadded, hbind, hremount, _⟩ :=
      binds_wholly.2 smallNaming readerPublish shownWorld _ rfl (Prod.ext hok rfl)
        (by decide +kernel)
    cases hplan
    exact ⟨o, o', hadded, hbind, hremount⟩

end ToolBench

end VolumeNode
