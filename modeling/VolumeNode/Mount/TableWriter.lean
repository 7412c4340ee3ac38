import VolumeNode.Mount.TableReader

/-!
# Writing the mount table

* `LineFields` are the fields of a line before anything in them is escaped.
* `LineFields.write` writes a line, with chosen characters of the root, the directory and the device
  as escapes. The kernel chooses `kernelEscaped`; `blankEscaped` chooses every blank.
* `LineFields.Readable` says that no field falls apart when it is written.
* Reading a readable line gives its entry (`readLine_write`).
-/

namespace VolumeNode.MountTable

/-! ## 1. Lines -/

/-- The fields of a line. -/
structure LineFields where
  mountNumber : List Char
  parentNumber : List Char
  deviceNumber : List Char
  root : List Char
  path : List Char
  options : List (List Char)
  /-- The optional fields in front of the separator. -/
  extra : List (List Char)
  fsType : List Char
  device : List Char
  /-- What stands behind the device, mostly the options of the filesystem. -/
  rest : List (List Char)
deriving DecidableEq, Repr

/-- The characters that the kernel writes as escapes. -/
def kernelEscaped (c : Char) : Bool :=
  c == ' ' || c == '\t' || c == '\n' || c == '\\'

/-- Every blank, and the backslash. -/
def blankEscaped (c : Char) : Bool :=
  Text.isBlank c || c == '\\'

namespace LineFields

/-- The fields as they are written. -/
def words (chosen : Char → Bool) (l : LineFields) : List (List Char) :=
  l.mountNumber :: l.parentNumber :: l.deviceNumber :: Escape.escape chosen l.root ::
    Escape.escape chosen l.path :: Text.joinWith ',' l.options ::
    (l.extra ++ separator :: l.fsType :: Escape.escape chosen l.device :: l.rest)

/-- A line as it is written. -/
def write (chosen : Char → Bool) (l : LineFields) : List Char :=
  Text.joinWith ' ' (l.words chosen)

/-- The mount that a line is about. -/
def entry (l : LineFields) : MountEntry :=
  { device := String.ofList l.device
    source := String.ofList (sourceOf l.device l.root)
    path := String.ofList l.path
    fsType := String.ofList l.fsType
    options := l.options.map String.ofList }

/-- No field falls apart when it is written, and none is taken for another one. -/
structure Readable (chosen : Char → Bool) (l : LineFields) : Prop where
  backslash : chosen '\\' = true
  nonempty : ∀ w ∈ l.words chosen, w ≠ []
  noBlank : ∀ w ∈ l.words chosen, ∀ c ∈ w, Text.isBlank c = false
  options : l.options ≠ []
  noComma : ∀ o ∈ l.options, ',' ∉ o
  extra : separator ∉ l.extra

/-! ## 2. Reading what was written -/

theorem readOptions_joinWith {options : List (List Char)} (hne : options ≠ [])
    (h : ∀ o ∈ options, ',' ∉ o) :
    readOptions (Text.joinWith ',' options) = options.map String.ofList := by
  have hc : ∀ o ∈ options, ∀ c ∈ o, (c == ',') = false := by
    intro o ho c hc
    have hne : c ≠ ',' := fun e => h o ho (e ▸ hc)
    simpa using hne
  rw [readOptions, Text.splitOn_joinWith (by rfl) hne hc]

/-- The separator ends the optional fields. -/
theorem dropWhile_append_separator {extra : List (List Char)} (h : separator ∉ extra)
    (rest : List (List Char)) :
    (extra ++ separator :: rest).dropWhile (· != separator) = separator :: rest := by
  induction extra with
  | nil => simp
  | cons field extra ih =>
    rw [List.mem_cons, not_or] at h
    have hne : (field != separator) = true := by simpa using Ne.symm h.1
    rw [List.cons_append, List.dropWhile_cons, if_pos hne, ih h.2]

/-- **Reading a line gives the mount that it was written for.** -/
theorem readLine_write {chosen : Char → Bool} {l : LineFields} (h : l.Readable chosen) :
    readLine (l.write chosen) = .ok l.entry := by
  have hw : Text.words (l.write chosen) = l.words chosen :=
    Text.words_joinWith (by decide) h.nonempty h.noBlank
  have hd := dropWhile_append_separator h.extra
    (l.fsType :: Escape.escape chosen l.device :: l.rest)
  have ho := readOptions_joinWith h.options h.noComma
  unfold readLine
  rw [hw]
  simp only [words, hd, entryOf, entry, ho, Escape.unescape_escape h.backslash]

end LineFields

end VolumeNode.MountTable
