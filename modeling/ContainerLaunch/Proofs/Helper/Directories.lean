import ContainerLaunch.Proofs.Helper.Options
import ContainerLaunch.Proofs.Text.Pieces
/-!
# How a command names the directories

A command of the helper names the directories of a request twice: in two fields of the helper's own, where they
are joined by commas, and to the daemon's client, one mount for each.

The mounts can always be read back (`mountedPaths_allArgs`). A field is taken apart at its commas, and an empty
one names no directory; so it can be read back exactly if no directory has a comma in its name and the list is
not that of one empty name (`directoriesIn_intercalate_iff`).
-/

namespace ContainerLaunch.Helper

/-- The directories in a field of the helper's. -/
def directoriesIn (field : String) : List String :=
  if field.isEmpty then [] else (Text.pieces ',' field.toList).map String.ofList

/-- The directories can be told apart when they stand in one field. -/
structure Listable (dirs : List String) : Prop where
  comma : ∀ d ∈ dirs, ',' ∉ d.toList
  blank : dirs ≠ [""]

instance (dirs : List String) : Decidable (Listable dirs) :=
  decidable_of_iff ((∀ d ∈ dirs, ',' ∉ d.toList) ∧ dirs ≠ [""])
    ⟨fun ⟨hc, hb⟩ => ⟨hc, hb⟩, fun h => ⟨h.comma, h.blank⟩⟩

/-- The path that is mounted at itself by the value of a mount. -/
def ownPath? (value : String) : Option String :=
  let path := value.toList.take (value.toList.length / 2)
  if value.toList = path ++ ':' :: path then some (String.ofList path) else none

/-- The paths of the mounts that some tokens begin with. -/
def mountedPaths : List String → List String
  | option :: value :: rest =>
    if option = "-v" then
      match ownPath? value with
      | some path => path :: mountedPaths rest
      | none => []
    else []
  | _ => []

/-! ## Fields -/

section Fields
variable {d : String} {ds dirs : List String}

theorem toList_intercalate_cons (d : String) (ds : List String) :
    (String.intercalate "," (d :: ds)).toList = d.toList ++ (ds.map String.toList).flatMap (',' :: ·) := by
  rw [String.toList_intercalate, List.map_cons]
  exact @Text.intercalate_cons ',' _ _

theorem map_ofList_eq_iff {pieces : List (List Char)} :
    pieces.map String.ofList = dirs ↔ pieces = dirs.map String.toList := by
  constructor
  · rintro rfl
    simp
  · rintro rfl
    simp

theorem isEmpty_intercalate_cons_iff :
    (String.intercalate "," (d :: ds)).isEmpty = true ↔ d :: ds = [""] := by
  rw [String.isEmpty_iff, ← String.toList_eq_nil_iff, toList_intercalate_cons, List.append_eq_nil_iff]
  cases ds <;> simp

theorem directoriesIn_intercalate_iff :
    directoriesIn (String.intercalate "," dirs) = dirs ↔ Listable dirs := by
  cases dirs with
  | nil => exact iff_of_true rfl (by decide)
  | cons d ds =>
    by_cases hblank : d :: ds = [""]
    · rw [directoriesIn, if_pos (isEmpty_intercalate_cons_iff.2 hblank)]
      exact iff_of_false (List.cons_ne_nil d ds).symm fun h => h.blank hblank
    · rw [directoriesIn, if_neg (mt isEmpty_intercalate_cons_iff.1 hblank), map_ofList_eq_iff, List.map_cons,
        Text.pieces_eq_cons_iff, toList_intercalate_cons]
      constructor
      · rintro ⟨-, hd, hds⟩
        refine ⟨fun d' hd' => ?_, hblank⟩
        rcases List.mem_cons.1 hd' with rfl | hd'
        · exact hd
        · exact hds _ (List.mem_map_of_mem hd')
      · rintro ⟨hcomma, -⟩
        refine ⟨rfl, hcomma d List.mem_cons_self, fun q hq => ?_⟩
        obtain ⟨d', hd', rfl⟩ := List.mem_map.1 hq
        exact hcomma d' (List.mem_cons_of_mem d hd')

/-- Directories that can be told apart are the only ones in their field. -/
theorem Listable.eq_of_intercalate_eq {dirs' : List String} (h : Listable dirs) (h' : Listable dirs')
    (he : String.intercalate "," dirs = String.intercalate "," dirs') : dirs = dirs' := by
  rw [← directoriesIn_intercalate_iff.2 h, he, directoriesIn_intercalate_iff.2 h']

end Fields

/-! ## Mounts -/

theorem ownPath?_append (path : String) : ownPath? (path ++ ":" ++ path) = some path := by
  have hvalue : (path ++ ":" ++ path).toList = path.toList ++ ':' :: path.toList := by
    rw [String.toList_append, String.toList_append, List.append_assoc]
    rfl
  have hlength : (path.toList ++ ':' :: path.toList).length / 2 = path.toList.length := by
    rw [List.length_append, List.length_cons]
    omega
  rw [ownPath?, hvalue, hlength, List.take_left]
  exact (if_pos rfl).trans (congrArg some String.ofList_toList)

theorem mountedPaths_allArgs (mounts : List Mount) (tokens : List String) :
    mountedPaths (Mount.allArgs mounts ++ tokens) = mounts.map Mount.path ++ mountedPaths tokens := by
  induction mounts with
  | nil => rfl
  | cons m mounts ih =>
    have hpath : ownPath? (m.hostPath ++ ":" ++ m.containerPath) = some m.path := ownPath?_append m.path
    rw [Mount.allArgs, List.flatMap_cons, Mount.args]
    show mountedPaths ("-v" :: (m.hostPath ++ ":" ++ m.containerPath) :: (Mount.allArgs mounts ++ tokens)) = _
    rw [mountedPaths, if_pos rfl, hpath, ih]
    rfl

/-- Even an image that looks like the option of a mount mounts nothing. -/
theorem mountedPaths_image (image script : String) : mountedPaths [image, "bash", script] = [] := by
  have hbash : ownPath? "bash" = none := rfl
  rw [mountedPaths, hbash]
  exact ite_self _

/-! ## Commands -/

/-- How many tokens stand before the mounts: the helper's eleven, the client's three, the verb and four options
with their values, and for `run` one option without. -/
def mountsAt : Task → Nat
  | .run => 24
  | _ => 23

section Commands
variable {setup setup' : Setup} {task task' : Task} {r r' : Request} {plan plan' : Plan} {url : String}

theorem drop_argv (htask : task = .create ∨ task = .run) :
    (argv setup task r plan).drop (mountsAt task) =
      Mount.passwdArgs ++ (Mount.allArgs plan.localMounts ++
        (Mount.allArgs plan.logMounts ++ [plan.image, "bash", plan.launchScript])) := by
  rcases htask with rfl | rfl <;>
    simp [argv, positional, Client.argv, Task.clientArgs, containerOptions, mountsAt]

theorem getElem?_argv_localDirs :
    (argv setup task r plan)[9]? = some (String.intercalate "," r.localDirs) := rfl

theorem getElem?_argv_logDirs :
    (argv setup task r plan)[10]? = some (String.intercalate "," r.logDirs) := rfl

/-- What `create` and `run` mount is what was asked for; the helper is told the same directories exactly if they
can be told apart in one field, and so they are the only ones that it can take them for. -/
theorem directories_argv (setup : Setup) (htask : task = .create ∨ task = .run)
    (h : Plan.resolve r url = .ok plan) :
    (∃ tokens, (argv setup task r plan).drop (mountsAt task) = Mount.passwdArgs ++ tokens ∧
      mountedPaths tokens = r.localDirs ++ r.logDirs) ∧
    ((argv setup task r plan)[9]?.map directoriesIn = some r.localDirs ↔ Listable r.localDirs) ∧
    ((argv setup task r plan)[10]?.map directoriesIn = some r.logDirs ↔ Listable r.logDirs) ∧
    ∀ setup' task' r' plan', Listable r.localDirs → Listable r.logDirs → Listable r'.localDirs →
      Listable r'.logDirs → (argv setup task r plan).take 11 = (argv setup' task' r' plan').take 11 →
      r.localDirs = r'.localDirs ∧ r.logDirs = r'.logDirs := by
  refine ⟨⟨_, drop_argv htask, ?_⟩, ?_, ?_, fun setup' task' r' plan' hlocal hlog hlocal' hlog' he => ?_⟩
  · obtain ⟨hlocal, hlog⟩ := mounts_of_resolve h
    rw [mountedPaths_allArgs, mountedPaths_allArgs, mountedPaths_image, hlocal, hlog]
    simp [Mount.ofPaths, Function.comp_def]
  · rw [getElem?_argv_localDirs, Option.map_some, Option.some_inj, directoriesIn_intercalate_iff]
  · rw [getElem?_argv_logDirs, Option.map_some, Option.some_inj, directoriesIn_intercalate_iff]
  · have hfield (i : Nat) :
        ((argv setup task r plan).take 11)[i]? = ((argv setup' task' r' plan').take 11)[i]? := by rw [he]
    exact ⟨hlocal.eq_of_intercalate_eq hlocal' (Option.some.inj (hfield 9)),
      hlog.eq_of_intercalate_eq hlog' (Option.some.inj (hfield 10))⟩

end Commands

/-! ## Requests that the helper cannot tell apart -/

def requestOn (localDirs logDirs : List String) : Request :=
  { (default : Request) with localDirs, logDirs, imageReference := some "-v" }

def planOn (localDirs logDirs : List String) : Plan where
  image := "-v"
  dockerUrl := "tcp://d:1"
  localMounts := Mount.ofPaths localDirs
  logMounts := Mount.ofPaths logDirs
  launchScript := "launch_container.sh"

theorem directories_argv_duplicates :
    let r := requestOn ["/d", "", "/d"] []
    Plan.resolve r "tcp://d:1" = .ok (planOn ["/d", "", "/d"] []) ∧
    (argv ⟨"/h", .podman⟩ .run r (planOn ["/d", "", "/d"] []))[9]?.map directoriesIn = some r.localDirs := by
  have h : Plan.resolve (requestOn ["/d", "", "/d"] []) "tcp://d:1" = .ok (planOn ["/d", "", "/d"] []) := rfl
  exact ⟨h, (directories_argv ⟨"/h", .podman⟩ (.inr rfl) h).2.1.2 (by decide)⟩

/-- A comma in a name looks like two names, and one empty name like none, to the helper but not to the client. -/
theorem directories_argv_comma :
    let r := requestOn ["/a,/b"] [""]
    let r' := requestOn ["/a", "/b"] []
    let command := argv ⟨"/h", .docker⟩ .create r (planOn ["/a,/b"] [""])
    let command' := argv ⟨"/h", .docker⟩ .create r' (planOn ["/a", "/b"] [])
    Plan.resolve r "tcp://d:1" = .ok (planOn ["/a,/b"] [""]) ∧
    Plan.resolve r' "tcp://d:1" = .ok (planOn ["/a", "/b"] []) ∧
    command[9]?.map directoriesIn ≠ some r.localDirs ∧ command[10]?.map directoriesIn ≠ some r.logDirs ∧
    command.take 11 = command'.take 11 ∧ r.localDirs ≠ r'.localDirs ∧ r.logDirs ≠ r'.logDirs ∧
    mountedPaths (command.drop (mountsAt .create + 2)) = ["/a,/b", ""] := by
  refine ⟨rfl, rfl, ?_, ?_, ?_, ?_, ?_, ?_⟩ <;> decide

end ContainerLaunch.Helper
