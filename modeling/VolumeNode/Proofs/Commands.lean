import VolumeNode.Proofs.FileTree.Named
import VolumeNode.Proofs.Mount.Formatting

/-!
# The commands that calls make

Strings of a request come to stand in commands of a program that may do anything on the machine: the
volume ID in the path of a device, the two paths, the name of a filesystem, the flags.

* `Call.Issues` are the commands that a call may attempt, with all that is certain of their
  arguments. A path from a request is plain, so it starts with a slash and can be taken for no
  option; the name of a device link holds no slash, so it is in the device directory.
* **`Call.adds_run`**: a call attempts no others, however the tools answer.
* `Session` are the courses of calls with the attempts that each of them made, while others change
  the file tree, the mount table and the tools. **`Session.issues`**: in a session each attempt is
  one that its call may make.
-/

namespace VolumeNode

open ToolBench

/-! ## 1. Options -/

/-- The last of the options between commas is `ro`. -/
def EndsReadOnly (options : String) : Prop :=
  (Text.splitOn (· == ',') options.toList).getLast? = some ['r', 'o']

theorem exists_intercalate_concat (separator last : List Char) {pieces : List (List Char)}
    (h : pieces ≠ []) :
    ∃ front, separator.intercalate (pieces ++ [last]) = front ++ separator ++ last := by
  induction pieces with
  | nil => exact absurd rfl h
  | cons piece pieces ih =>
    by_cases hnil : pieces = []
    · subst hnil
      exact ⟨piece, by simp⟩
    · obtain ⟨front, hfront⟩ := ih hnil
      refine ⟨piece ++ separator ++ front, ?_⟩
      rw [List.cons_append, List.intercalate_cons_of_ne_nil (by simp), hfront]
      simp

/-- An `ro` behind all flags is the last option, whatever the flags are. -/
theorem endsReadOnly_concat (flags : List String) :
    EndsReadOnly (String.intercalate "," (flags ++ ["ro"])) := by
  have hro : Text.splitOn (· == ',') ['r', 'o'] = [['r', 'o']] := by decide
  unfold EndsReadOnly
  rw [String.toList_intercalate, List.map_append]
  show (Text.splitOn _ ([','].intercalate (flags.map String.toList ++ [['r', 'o']]))).getLast? = _
  by_cases hflags : flags.map String.toList = []
  · rw [hflags]
    exact congrArg List.getLast? hro
  · obtain ⟨front, hfront⟩ := exists_intercalate_concat [','] ['r', 'o'] hflags
    rw [hfront, List.append_assoc, List.singleton_append, Text.splitOn_append (by decide), hro,
      List.getLast?_concat]

/-! ## 2. Links -/

namespace DeviceNaming

/-- A link that tools can be given as text: it is in the device directory. -/
structure ProperLink (naming : DeviceNaming) (volume : String) : Prop where
  /-- The device directory, as text, with the name of the link behind it. -/
  joined : naming.linkText volume =
    joinText (Text.ofBytes naming.directory) (naming.linkOf volume)
  /-- This is the path of the link itself, unless the directory is no text. -/
  exact : Text.bytesOf (Text.ofBytes naming.directory) = naming.directory →
    Text.bytesOf (naming.linkText volume) = naming.linkPath volume
  rooted : (naming.linkText volume).toList.head? = some '/'
  noSlash : '/' ∉ (naming.linkOf volume).toList
  noNul : '\x00' ∉ (naming.linkText volume).toList

/-- A volume with a device has a proper link: its name is listed, so it is a name. -/
theorem properLink_of_device {naming : DeviceNaming} {t : FileTree} {volume : String} {d : Device}
    (hrooted : naming.directory.head? = some Location.slash) (hnamed : t.WellNamed)
    (h : naming.device t volume = .ok d) :
    d.link = naming.linkText volume ∧ naming.ProperLink volume := by
  obtain ⟨_, ⟨names, hread, name, hname, hlink⟩, hat⟩ := device_eq_ok_iff.1 h
  obtain ⟨_, _, _, _, rfl⟩ := deviceAt_eq_ok_iff.1 hat
  obtain ⟨l, hlocate, _, rfl⟩ := FileTree.readDirectory_eq_ok_iff.1 hread
  obtain ⟨bytes, hbytes, _⟩ := FileTree.locateBytes_eq_ok_iff.1 hlocate
  obtain ⟨rfl, hnul, _⟩ := FileTree.shortPath_eq_ok_iff.1 hbytes
  obtain ⟨hslash, hzero⟩ := hnamed.of_mem_names hname
  have hlist : (naming.linkOf volume).toList = Text.decodeLossy name := by
    rw [← hlink]
    exact String.toList_ofList
  refine ⟨rfl, linkText_eq_joinText naming volume,
    fun hisText => TextNaming.bytesOf_linkText ⟨naming, hisText⟩ volume,
    Text.head?_ofBytes (head?_linkPath hrooted volume), ?noSlash, ?noNul⟩
  case noSlash =>
    rw [hlist, Text.mem_decodeLossy_iff (by decide)]
    exact hslash
  case noNul =>
    have hname : 0 ∉ Text.bytesOf (naming.linkOf volume) := by
      have hmem := Text.mem_toList_iff (c := '\x00') (by decide) (naming.linkOf volume)
      rw [hlist, Text.mem_decodeLossy_iff (by decide)] at hmem
      exact fun h => hzero (hmem.2 h)
    unfold linkText Text.ofBytes
    rw [String.toList_ofList, Text.mem_decodeLossy_iff (by decide)]
    exact not_mem_linkPath hnul hname

end DeviceNaming

/-! ## 3. Commands of one call -/

/-- The capability of a request allows reading only. -/
def StageRequest.ReadsOnly (r : StageRequest) : Prop :=
  ∃ c, r.capability = some c ∧ c.accessMode.readOnly? = some true

/-- The commands that a call may attempt. -/
inductive Call.Issues (naming : DeviceNaming) : Call → Command → Prop
  /-- Mounts the device on the staging directory. -/
  | mount {r : StageRequest} {fsType options : String} (fs : fsType ∈ FsType.supported)
      (link : naming.ProperLink r.volume) (staging : PlainPath.IsPlain r.staging)
      (reads : r.ReadsOnly → EndsReadOnly options) :
      Issues naming (.stage r) ⟨"mount",
        ["-t", fsType] ++ (if options.isEmpty then [] else ["-o", options]) ++
          [naming.linkText r.volume, r.staging]⟩
  /-- Asks what is on the device. -/
  | probe {r : StageRequest} (link : naming.ProperLink r.volume) :
      Issues naming (.stage r) ⟨"blkid", ["-p", naming.linkText r.volume]⟩
  /-- Makes a filesystem on the device. -/
  | make {r : StageRequest} {fsType : String} (fs : fsType ∈ FsType.supported)
      (link : naming.ProperLink r.volume) :
      Issues naming (.stage r)
        ⟨"mkfs." ++ fsType, [if fsType = "xfs" then "-f" else "-F", naming.linkText r.volume]⟩
  /-- Binds the staging directory to the target. -/
  | bind {r : PublishRequest} (staging : PlainPath.IsPlain r.staging)
      (target : PlainPath.IsPlain r.target) :
      Issues naming (.publish r) ⟨"mount", ["--bind", r.staging, r.target]⟩
  /-- Gives the bind its flags. -/
  | remount {r : PublishRequest} {options : String} (target : PlainPath.IsPlain r.target)
      (reads : r.readOnly = true → EndsReadOnly options) :
      Issues naming (.publish r) ⟨"mount", ["-o", "remount,bind," ++ options, r.target]⟩
  /-- Takes a bind back that could not be given its flags. -/
  | undo {r : PublishRequest} (target : PlainPath.IsPlain r.target) :
      Issues naming (.publish r) ⟨"umount", [r.target]⟩
  | unstage {r : UnstageRequest} (staging : PlainPath.IsPlain r.staging) :
      Issues naming (.unstage r) ⟨"umount", [r.staging]⟩
  | unpublish {r : UnpublishRequest} (target : PlainPath.IsPlain r.target) :
      Issues naming (.unpublish r) ⟨"umount", [r.target]⟩

/-- What a call adds to the attempts are commands that it may attempt. -/
abbrev Call.Adds (naming : DeviceNaming) (r : Call) (w w' : World ToolBench) : Prop :=
  Added (fun a => r.Issues naming a.command) w w'

/-- An action adds to the attempts what a call may attempt. -/
def Call.Bounds (naming : DeviceNaming) (r : Call) (a : Action) : Prop :=
  ∀ w, r.Adds naming w (a.perform ToolBench.system w).2

section Actions

variable {naming : DeviceNaming}

theorem Call.looks_bounds (naming : DeviceNaming) (r : Call) : Handler.Looks (r.Bounds naming) :=
  fun _ hmounts _ w => Added.of_unchanged _ hmounts w

/-- One run of a command is one more attempt. -/
theorem Call.Issues.adds {r : Call} {program : String} {arguments : List String}
    (h : r.Issues naming ⟨program, arguments⟩) (w : World ToolBench) :
    r.Adds naming w { w with mounts := (w.mounts.run program arguments).2 } :=
  ⟨_, attempts_run _ _ _, List.forall_mem_singleton.2 h⟩

theorem Call.Issues.bounds_mount {r : Call} {source target fsType : String} {flags : List String}
    (h : r.Issues naming (mountCommand source target fsType flags)) :
    r.Bounds naming (.mount source target fsType flags) :=
  fun w => h.adds w

theorem Call.Issues.bounds_unmount {r : Call} {target : String}
    (h : r.Issues naming ⟨"umount", [target]⟩) : r.Bounds naming (.unmount target) :=
  fun w => h.adds w

theorem Call.bounds_mountFormatted {r : Call} {source target fsType : String}
    {flags : List String} (hprobe : r.Issues naming (probeCommand source))
    (hmake : r.Issues naming (makeCommand source fsType))
    (hmount : r.Issues naming (mountCommand source target fsType flags)) :
    r.Bounds naming (.mountFormatted source target fsType flags) := by
  intro w
  obtain ⟨new, hnew, hcourse⟩ := mountFormatted_course w.mounts source target fsType flags
  refine ⟨new, hnew, ?_⟩
  generalize (w.mounts.mountFormatted source target fsType flags).1 = result at hcourse
  cases hcourse with
  | unknown | kept | failed | formatted => simp [hprobe, hmake, hmount]

/-- A bind is one command, or two if it has flags, and a third one if these cannot be set. -/
theorem Call.bounds_bindTo {r : Call} {source target : String} {flags : List String}
    (hbind : r.Issues naming ⟨"mount", ["--bind", source, target]⟩)
    (hremount : flags ≠ [] → r.Issues naming
      ⟨"mount", ["-o", "remount,bind," ++ String.intercalate "," flags, target]⟩)
    (hundo : r.Issues naming ⟨"umount", [target]⟩) :
    r.Bounds naming (.bindTo source target flags) := by
  intro w
  show r.Adds naming w { w with mounts := (w.mounts.bindTo source target flags).2 }
  have hbound := hbind.adds w
  unfold ToolBench.bindTo
  cases hfirst : w.mounts.run "mount" ["--bind", source, target] with
  | mk x b =>
    rw [hfirst] at hbound
    cases x with
    | error e => exact hbound
    | ok u =>
      dsimp only
      by_cases hflags : flags = []
      · rw [if_pos hflags]
        exact hbound
      · rw [if_neg hflags]
        have hset := (hremount hflags).adds { w with mounts := b }
        cases hsecond : b.run "mount"
            ["-o", "remount,bind," ++ String.intercalate "," flags, target] with
        | mk y b' =>
          dsimp only at hset
          rw [hsecond] at hset
          cases y with
          | ok u => exact hbound.trans hset
          | error e => exact (hbound.trans hset).trans (hundo.adds { w with mounts := b' })

end Actions

/-! ## 4. Calls -/

namespace Handler

variable {α : Type} {P : Action → Prop}

/-- What comes after a check for a directory may count on a plain path. -/
theorem Confined.requireDirectory_bind (hP : Looks P) {path : String} {f : Unit → Handler α}
    (hf : PlainPath.IsPlain path → Confined P (f ())) :
    Confined P (Handler.requireDirectory path >>= f) := by
  unfold Handler.requireDirectory
  simp only [bind_assoc]
  refine (Confined.require _ _).bind fun _ => ?_
  refine Confined.ofExcept_bind fun _ hplain => ?_
  refine (Confined.ask (hP _ rfl rfl)).bind fun _ => (Confined.demand _ _).bind fun entry => ?_
  exact (Confined.require _ _).bind fun _ => hf ((PlainPath.check_eq_ok_iff path).1 hplain)

theorem Confined.requireTarget_bind {path : String} {f : Unit → Handler α}
    (hf : PlainPath.IsPlain path → Confined P (f ())) :
    Confined P (Handler.requireTarget path >>= f) := by
  unfold Handler.requireTarget
  simp only [bind_assoc]
  refine (Confined.require _ _).bind fun _ => ?_
  exact Confined.ofExcept_bind fun _ hplain => hf ((PlainPath.check_eq_ok_iff path).1 hplain)

theorem Confined.unmountTimes {target : String} (h : P (.unmount target)) (n : Nat) :
    Confined P (Handler.unmountTimes target n) := by
  induction n with
  | zero => exact Confined.pure _
  | succ n ih => exact (Confined.ask h).bind fun _ => (Confined.demand _ _).bind fun _ => ih

end Handler

/-- A filesystem that was chosen is supported. -/
theorem FsType.mem_supported_of_choose {name fsType : String} (h : choose name = .ok fsType) :
    fsType ∈ supported := by
  unfold choose at h
  dsimp only at h
  split at h
  · cases h
    decide
  · split at h
    · cases h
      exact List.contains_iff_mem.1 ‹_›
    · cases h

/-- A plan of a request has a supported filesystem. -/
theorem MountPlan.fsType_mem_supported {c : Option Capability} {plan : MountPlan}
    (h : MountPlan.ofRequest c = .ok plan) : plan.fsType ∈ FsType.supported := by
  cases c with
  | none => cases h
  | some c =>
    simp only [MountPlan.ofRequest, MountPlan.ofCapability] at h
    split at h
    · split at h
      · cases h
      · rename_i fsType hchoose
        split at h
        · cases h
        · cases h
          exact FsType.mem_supported_of_choose hchoose
    · cases h

/-- A volume for reading only has a plan that only reads. -/
theorem StageRequest.ReadsOnly.readOnly {r : StageRequest} (h : r.ReadsOnly) {plan : MountPlan}
    (hplan : MountPlan.ofRequest r.capability = .ok plan) : plan.readOnly = true := by
  obtain ⟨c, hc, hmode⟩ := h
  rw [hc] at hplan
  exact Handler.readOnly_of_ofRequest hplan hmode

section Calls

open Handler

variable {naming : DeviceNaming} {d : Device}

theorem confined_mountDevice_bounds {r : StageRequest} {plan : MountPlan}
    (hlink : d.link = naming.linkText r.volume) (hproper : naming.ProperLink r.volume)
    (hstaging : PlainPath.IsPlain r.staging)
    (hplan : MountPlan.ofRequest r.capability = .ok plan) :
    Confined ((Call.stage r).Bounds naming) (mountDevice d r.volume r.staging plan) := by
  have hfs := MountPlan.fsType_mem_supported hplan
  unfold mountDevice
  rw [hlink]
  split
  · refine Confined.bind (Confined.ask (Call.Issues.bounds_mount ?_)) fun _ => Confined.demand _ _
    exact .mount hfs hproper hstaging fun _ => endsReadOnly_concat plan.flags
  · rename_i hwrites
    refine Confined.bind (Confined.ask (Call.bounds_mountFormatted ?_ ?_ ?_)) fun _ =>
      Confined.demand _ _
    · exact .probe hproper
    · exact .make hfs hproper
    · exact .mount hfs hproper hstaging fun hreads => absurd (hreads.readOnly hplan) hwrites

/-- A call that has found its device is confined to what it may attempt. -/
theorem Call.adds_of_confined {r : Call} {volume : String} {f : Device → Handler Unit}
    {w : World ToolBench}
    (h : ∀ d, naming.device w.tree volume = .ok d → Confined (r.Bounds naming) (f d)) :
    r.Adds naming w ((findDevice naming volume >>= f).run.run ToolBench.system w).2 := by
  rw [run_bind, run_findDevice]
  cases hd : naming.device w.tree volume with
  | error e => exact Added.refl _ w
  | ok d =>
    exact (h d hd).run (Added.refl _) (fun _ _ _ => Added.trans) (fun a w ha => ha w) w

theorem adds_stage (hrooted : naming.directory.head? = some Location.slash) {w : World ToolBench}
    (hnamed : w.tree.WellNamed) (r : StageRequest) :
    (Call.stage r).Adds naming w ((stage naming r).run.run ToolBench.system w).2 := by
  have hlooks := Call.looks_bounds naming (.stage r)
  refine Call.adds_of_confined fun d hd => ?_
  obtain ⟨hlink, hproper⟩ := DeviceNaming.properLink_of_device hrooted hnamed hd
  refine Confined.requireDirectory_bind hlooks fun hstaging => ?_
  refine Confined.ofExcept_bind fun plan hplan => ?_
  refine (Confined.entriesOf hlooks d).bind fun mounts => ?_
  split
  · exact confined_mountDevice_bounds hlink hproper hstaging hplan
  · split
    · exact Confined.fail _
    · exact Confined.require _ _

theorem adds_unstage (r : UnstageRequest) (w : World ToolBench) :
    (Call.unstage r).Adds naming w ((unstage naming r).run.run ToolBench.system w).2 := by
  have hlooks := Call.looks_bounds naming (.unstage r)
  refine Call.adds_of_confined fun d _ => ?_
  refine Confined.requireDirectory_bind hlooks fun hstaging => ?_
  refine (Confined.entriesOf hlooks d).bind fun mounts => ?_
  split
  · exact Confined.pure _
  · refine (Confined.require _ _).bind fun _ => ?_
    refine Confined.bind (Confined.ask (Call.Issues.bounds_unmount ?_)) fun _ =>
      Confined.demand _ _
    exact .unstage hstaging
  · exact Confined.fail _

theorem adds_publish (r : PublishRequest) (w : World ToolBench) :
    (Call.publish r).Adds naming w ((publish naming r).run.run ToolBench.system w).2 := by
  have hlooks := Call.looks_bounds naming (.publish r)
  refine Call.adds_of_confined fun d _ => ?_
  refine Confined.requireTarget_bind fun htarget => ?_
  refine (Confined.makeTarget (fun _ ha w => Added.of_unchanged _ ha w) _).bind fun _ => ?_
  refine Confined.requireDirectory_bind hlooks fun hstaging => ?_
  refine (Confined.ofExcept _).bind fun plan => ?_
  refine (Confined.entriesOf hlooks d).bind fun mounts => ?_
  split
  · exact Confined.require _ _
  · refine (Confined.require _ _).bind fun _ => ?_
    refine Confined.bind (Confined.ask (Call.bounds_bindTo ?_ (fun _ => ?_) ?_)) fun _ =>
      Confined.demand _ _
    · exact .bind hstaging htarget
    · refine .remount htarget fun hreads => ?_
      unfold publishFlags
      rw [if_pos hreads]
      exact endsReadOnly_concat plan.flags
    · exact .undo htarget

theorem adds_unpublish (r : UnpublishRequest) (w : World ToolBench) :
    (Call.unpublish r).Adds naming w ((unpublish naming r).run.run ToolBench.system w).2 := by
  have hlooks := Call.looks_bounds naming (.unpublish r)
  refine Call.adds_of_confined fun d _ => ?_
  refine Confined.requireTarget_bind fun htarget => ?_
  refine (Confined.entriesAt hlooks _).bind fun mounts => ?_
  dsimp only
  split
  · exact Confined.pure _
  · refine (Confined.unmountTimes (Call.Issues.bounds_unmount (.unpublish htarget)) _).bind
      fun _ => ?_
    exact Confined.bind (Confined.ask fun w => Added.of_unchanged _ rfl w) fun _ =>
      Confined.demand _ _

end Calls

/-- **A call attempts no commands but its own.** -/
theorem Call.adds_run {naming : DeviceNaming}
    (hrooted : naming.directory.head? = some Location.slash) {w : World ToolBench}
    (hnamed : w.tree.WellNamed) (r : Call) :
    r.Adds naming w (r.run ToolBench.system naming w).2 := by
  cases r with
  | stage r => exact adds_stage hrooted hnamed r
  | unstage r => exact adds_unstage r w
  | publish r => exact adds_publish r w
  | unpublish r => exact adds_unpublish r w

/-! ## 5. Sessions -/

/-- No action brings improper names into a tree. -/
theorem Action.wellNamed_perform {σ : Type} {m : MountSystem σ} {w : World σ} (a : Action)
    (h : w.tree.WellNamed) : (a.perform m w).2.tree.WellNamed := by
  cases a with
  | makeDirectory path mode =>
    show (w.setTree _).2.tree.WellNamed
    cases hmake : w.tree.makeDirectory path mode with
    | error e => exact h
    | ok tree => exact h.makeDirectory hmake
  | removeDirectory path =>
    show (w.setTree _).2.tree.WellNamed
    cases hremove : w.tree.removeDirectory path with
    | error e => exact h
    | ok tree => exact h.removeDirectory hremove
  | _ => exact h

/-- The attempts that a call makes. -/
def Call.attempts (naming : DeviceNaming) (r : Call) (w : World ToolBench) : List Attempt :=
  (r.run ToolBench.system naming w).2.mounts.attempts.drop w.mounts.attempts.length

/-- The courses of calls, each call with the attempts it made. Between two calls others may change
    the file tree, the mount table and which tools there are and what these will answer. -/
inductive Session (naming : DeviceNaming) (start : World ToolBench) :
    List (Call × List Attempt) → World ToolBench → Prop
  | start : Session naming start [] start
  | call {log : List (Call × List Attempt)} {w : World ToolBench}
      (h : Session naming start log w) (r : Call) :
      Session naming start (log ++ [(r, r.attempts naming w)])
        (r.run ToolBench.system naming w).2
  | outside {log : List (Call × List Attempt)} {w : World ToolBench}
      (h : Session naming start log w) (w' : World ToolBench) (named : w'.tree.WellNamed)
      (attempts : w'.mounts.attempts = w.mounts.attempts) : Session naming start log w'

section Sessions

variable {naming : DeviceNaming} {start w : World ToolBench} {log : List (Call × List Attempt)}

theorem Session.wellNamed (h : Session naming start log w) (hnamed : start.tree.WellNamed) :
    w.tree.WellNamed := by
  induction h with
  | start => exact hnamed
  | call _ r ih =>
    exact (r.procedure naming).keeps_run (P := fun w => w.tree.WellNamed)
      (fun a _ hnamed => a.wellNamed_perform hnamed) ih
  | outside _ w' named _ _ => exact named

/-- What a call adds is what the session notes for it. -/
theorem Call.Adds.attempts {r : Call}
    (h : r.Adds naming w (r.run ToolBench.system naming w).2) :
    (r.run ToolBench.system naming w).2.mounts.attempts =
        w.mounts.attempts ++ r.attempts naming w ∧
      ∀ a ∈ r.attempts naming w, r.Issues naming a.command := by
  obtain ⟨new, hnew, hissues⟩ := h
  have hattempts : r.attempts naming w = new := by
    unfold Call.attempts
    rw [hnew, List.drop_left]
  rw [hattempts]
  exact ⟨hnew, hissues⟩

end Sessions

/-- The small machine with all tools and nothing mounted. -/
def toolWorld : World ToolBench := ⟨smallTree, fresh ""⟩

/-- The first volume was staged for reading only, and the mount table has come to show it. -/
def shownWorld : World ToolBench :=
  let staged := ((Call.stage readerStage).run ToolBench.system smallNaming toolWorld).2
  { staged with mounts := { staged.mounts with table := "36 35 8:1 / /s ro - ext4 /d/m ro" } }

/-- It is published for reading only, with a flag that asks for writing. -/
def readerPublish : PublishRequest := ⟨"a", "/s", "/p", writer ["rw"], true⟩

/-- Both calls with the attempts they made. -/
def readerLog : List (Call × List Attempt) :=
  [(.stage readerStage, (Call.stage readerStage).attempts smallNaming toolWorld),
    (.publish readerPublish, (Call.publish readerPublish).attempts smallNaming shownWorld)]

end VolumeNode
