/-
This file proves what a verified snapshot is worth.

Whoever changes trees between the calls, a tree that verifies with a key carries a manifest
that a snapshot signed with that key, and it consists of that manifest and of the files it
lists, with their contents.

The logical digest stands for what a database says, but for the rows of the tables that
SQLite keeps for itself, among them the statistics of `ANALYZE`.
-/

import DispatcherSdk.Library.Transition
import DispatcherSdk.Snapshots.Verify
import Mathlib.Data.Rat.Encodable
import Mathlib.Logic.Equiv.List

namespace DispatcherSdk.Snapshots

open ExecutionKernel Library List

/-! ### Changes of a tree -/

namespace Tree

variable {Content : Type}

/-- A new file under a name that is not taken. -/
def create (tree : Tree Content) (path : String) (inode : ℕ) (content : Content)
    (absent : path ∉ tree.nodes.map Prod.fst) : Tree Content where
  nodes := tree.nodes ++ [(path, .file inode)]
  content := fun other => if other = inode then content else tree.content other
  distinct := by
    rw [map_append, nodup_append]
    refine ⟨tree.distinct, nodup_singleton _, fun name member other last same => ?_⟩
    rw [same, mem_singleton.mp last] at member
    exact absent member

def rewrite (tree : Tree Content) (inode : ℕ) (content : Content) : Tree Content where
  nodes := tree.nodes
  content := fun other => if other = inode then content else tree.content other
  distinct := tree.distinct

def link (tree : Tree Content) (path : String) (inode : ℕ)
    (absent : path ∉ tree.nodes.map Prod.fst) : Tree Content where
  nodes := tree.nodes ++ [(path, .file inode)]
  content := tree.content
  distinct := (tree.create path inode (tree.content inode) absent).distinct

def erase (tree : Tree Content) (path : String) : Tree Content where
  nodes := tree.nodes.filter fun node => node.1 ≠ path
  content := tree.content
  distinct := tree.distinct.sublist (filter_sublist.map Prod.fst)

end Tree

/-! ### Jobs -/

/-- What is snapshot, without the files themselves. -/
structure Group where
  groupId : String
  components : List (String × String)
  blobs : List String

inductive Task where
  | component (name : String)
  | blob (name : String)
  | marker
  | copy (member : Json)

inductive Phase where
  | writing (todo : List Task) (done : List Json)
  | publishing (manifest : List (String × Json))
  | linked (manifest : List (String × Json)) (pending : String)
  | published (manifest : List (String × Json))
  | erasing (published : Bool)

/-- The manifest has been published under its name. -/
def Phase.afterLink : Phase → Bool
  | writing _ _ | publishing _ => false
  | linked _ _ | published _ => true
  | erasing visible => visible

inductive Order (Content : Type) where
  | snapshot (group : Group) (createdAt : String)
  | restore (source : Tree Content) (manifest : List (String × Json))

/-- A call of `snapshot_store_group` or `restore_snapshot`. -/
structure Job (Key Content : Type) where
  key : Key
  order : Order Content
  phase : Phase

/-- What a tree is: that of a job, with its manifest published or not, the result of one, or
anything else. -/
inductive Status (Key Content : Type) where
  | working (job : Job Key Content)
  | crashed (published : Bool)
  | finished (job : Job Key Content) (manifest : List (String × Json))
  | foreign

structure Site (Key Content : Type) where
  tree : Tree Content
  status : Status Key Content

/-- All trees, and the manifests that snapshots have signed, in order and the last one first. -/
structure World (Key Content : Type) where
  sites : List (Site Key Content)
  signed : List (Key × Json)

namespace Task

def path : Task → Option String
  | component name => some (componentPath name)
  | blob name => some (blobPath name)
  | marker => some readOnlyMarker
  | copy member => (fields? member).bind fun fields => validatedMemberPath (entry fields "path")

/-- The files that come and go while the file at a path is written. SQLite has some beside a
database. -/
def Writes (task : Task) (path : String) : Prop :=
  task.path = some path ∨ ∃ name, task = component name ∧
    path ∈ ["-journal", "-wal", "-shm"].map (componentPath name ++ ·)

end Task

def Order.tasks {Content : Type} : Order Content → List Task
  | .snapshot group _ =>
    ((group.components.map Prod.fst).insertionSort (· ≤ ·)).map Task.component ++
      (group.blobs.insertionSort (· ≤ ·)).map Task.blob ++ [Task.marker]
  | .restore _ manifest => (Toolkit.listed manifest).map Task.copy

namespace Toolkit

variable {Key Content : Type} (toolkit : Toolkit Key Content)

def memberFields (kind name path : String) (content : Content) : List (String × Json) :=
  [("kind", .string kind), ("name", .string name), ("path", .string path),
    ("size", .int (toolkit.size content)), ("sha256", .string (toolkit.digest content))]

/-- What is recorded of a file once its task is done. -/
def record (content : Content) : Task → Option Json
  | .component name => do
    let details ← toolkit.details content
    return .object (toolkit.memberFields "sqlite" name (componentPath name) content ++
      [("sqlite", .object details)])
  | .blob name => some (.object (toolkit.memberFields "blob" name (blobPath name) content))
  | .marker =>
    some (.object (toolkit.memberFields "activation-marker" readOnlyMarker readOnlyMarker content))
  | .copy member => some member

/-- The file of a task holds what it has to. -/
def Complete (order : Order Content) (task : Task) (content : Content) : Prop :=
  match task, order with
  | .marker, _ => content = toolkit.marker
  | .copy member, .restore source _ => ∃ file, toolkit.Lists source member file ∧
      content = source.content file.2
  | _, _ => True

/-- The manifest of a snapshot without its tag. -/
def manifest (key : Key) (group : Group) (createdAt : String) (members : List Json) :
    List (String × Json) :=
  [("format", .string "dispatcher-sdk-store-group-snapshot"), ("version", .int 1),
    ("created_at", .string createdAt),
    ("group", .object
      [("id", .string group.groupId),
        ("components", mapping (group.components.map fun source =>
          (source.1, componentPath source.1))),
        ("blobs", mapping (group.blobs.map fun name => (name, blobPath name))),
        ("declaration", .string "caller-declared-closed-set")]),
    ("members", .array (members.insertionSort fun left right =>
      (string? (entry ((fields? left).getD []) "path")).getD "" ≤
        (string? (entry ((fields? right).getD []) "path")).getD "")),
    ("activation", .object
      [("requires_explicit_activation", .bool true), ("marker", .string readOnlyMarker),
        ("activation_api_available", .bool false),
        ("copy_activation_api_available", .bool true),
        ("source_components", mapping group.components)]),
    ("consistency", .object
      [("storage_maintenance_exclusion", .bool true),
        ("business_terminal_state_proven", .bool false),
        ("undeclared_resources_discovered", .bool false)]),
    ("authentication", .object
      [("algorithm", .string "HMAC-SHA256"), ("key_id", .string (toolkit.keyId key))])]

/-- `_authenticate`: the manifest with the tag of its canonical text. -/
def authenticate (key : Key) (manifest : List (String × Json)) : List (String × Json) :=
  manifest.map fun field =>
    if field.1 = "authentication" then
      (field.1, .object ((fields? field.2).getD [] ++
        [("tag", .string (toolkit.mac key (Json.object manifest).encode))]))
    else field

/-- Where a manifest is written before it gets its name. -/
def pendingPath (unique : String) : String := "." ++ manifestName ++ "." ++ unique ++ ".pending"

/-- The content reads as a manifest with a valid tag only if the manifest was signed. -/
def Genuine (signed : List (Key × Json)) (content : Content) : Prop :=
  ∀ key manifest plain, (toolkit.read content).bind fields? = some manifest →
    toolkit.authentic key manifest = true → unsigned manifest = some plain →
      (key, plain.sorted) ∈ signed

/-! ### Moves -/

/-- What a job does to its tree, or others to a tree that is nobody's. -/
inductive SiteMove (signed : List (Key × Json)) :
    Site Key Content → List (Key × Json) → Site Key Content → Prop
  | create {tree : Tree Content} {key : Key} {order : Order Content} {task : Task}
      {todo : List Task} {done : List Json} {path : String} {inode : ℕ} {content : Content}
      (writes : task.Writes path) (absent : path ∉ tree.nodes.map Prod.fst)
      (fresh : ∀ node ∈ tree.nodes, node.2 ≠ .file inode)
      (genuine : toolkit.Genuine signed content) :
      SiteMove signed ⟨tree, .working ⟨key, order, .writing (task :: todo) done⟩⟩ signed
        ⟨tree.create path inode content absent,
          .working ⟨key, order, .writing (task :: todo) done⟩⟩
  | grow {tree : Tree Content} {key : Key} {order : Order Content} {task : Task}
      {todo : List Task} {done : List Json} {path : String} {inode : ℕ} {content : Content}
      (writes : task.Writes path) (found : tree.file? path = some inode)
      (genuine : toolkit.Genuine signed content) :
      SiteMove signed ⟨tree, .working ⟨key, order, .writing (task :: todo) done⟩⟩ signed
        ⟨tree.rewrite inode content, .working ⟨key, order, .writing (task :: todo) done⟩⟩
  | tidy {tree : Tree Content} {key : Key} {order : Order Content} {task : Task}
      {todo : List Task} {done : List Json} {path : String} (writes : task.Writes path) :
      SiteMove signed ⟨tree, .working ⟨key, order, .writing (task :: todo) done⟩⟩ signed
        ⟨tree.erase path, .working ⟨key, order, .writing (task :: todo) done⟩⟩
  | record {tree : Tree Content} {key : Key} {order : Order Content} {task : Task}
      {todo : List Task} {done : List Json} {path : String} {inode : ℕ} {member : Json}
      (placed : task.path = some path) (found : tree.file? path = some inode)
      (complete : toolkit.Complete order task (tree.content inode))
      (recorded : toolkit.record (tree.content inode) task = some member) :
      SiteMove signed ⟨tree, .working ⟨key, order, .writing (task :: todo) done⟩⟩ signed
        ⟨tree, .working ⟨key, order, .writing todo (done ++ [member])⟩⟩
  | sign {tree : Tree Content} {key : Key} {group : Group} {createdAt : String} {done : List Json} :
      SiteMove signed ⟨tree, .working ⟨key, .snapshot group createdAt, .writing [] done⟩⟩
        ((key, (Json.object (toolkit.manifest key group createdAt done)).sorted) :: signed)
        ⟨tree, .working ⟨key, .snapshot group createdAt,
          .publishing (toolkit.authenticate key (toolkit.manifest key group createdAt done))⟩⟩
  /-- The manifest of a source that did not change is the one that was verified. -/
  | reread {tree source : Tree Content} {key : Key} {manifest : List (String × Json)}
      {done : List Json} :
      SiteMove signed ⟨tree, .working ⟨key, .restore source manifest, .writing [] done⟩⟩ signed
        ⟨tree, .working ⟨key, .restore source manifest, .publishing manifest⟩⟩
  | createPending {tree : Tree Content} {key : Key} {order : Order Content}
      {manifest : List (String × Json)} {unique : String} {inode : ℕ} {content : Content}
      (absent : pendingPath unique ∉ tree.nodes.map Prod.fst)
      (fresh : ∀ node ∈ tree.nodes, node.2 ≠ .file inode)
      (genuine : toolkit.Genuine signed content) :
      SiteMove signed ⟨tree, .working ⟨key, order, .publishing manifest⟩⟩ signed
        ⟨tree.create (pendingPath unique) inode content absent,
          .working ⟨key, order, .publishing manifest⟩⟩
  | growPending {tree : Tree Content} {key : Key} {order : Order Content}
      {manifest : List (String × Json)} {unique : String} {inode : ℕ} {content : Content}
      (found : tree.file? (pendingPath unique) = some inode)
      (genuine : toolkit.Genuine signed content) :
      SiteMove signed ⟨tree, .working ⟨key, order, .publishing manifest⟩⟩ signed
        ⟨tree.rewrite inode content, .working ⟨key, order, .publishing manifest⟩⟩
  | link {tree : Tree Content} {key : Key} {order : Order Content}
      {manifest : List (String × Json)} {unique : String} {inode : ℕ}
      (absent : manifestName ∉ tree.nodes.map Prod.fst)
      (found : tree.file? (pendingPath unique) = some inode)
      (written : tree.content inode = toolkit.write (Json.object manifest).encode) :
      SiteMove signed ⟨tree, .working ⟨key, order, .publishing manifest⟩⟩ signed
        ⟨tree.link manifestName inode absent,
          .working ⟨key, order, .linked manifest (pendingPath unique)⟩⟩
  | unlink {tree : Tree Content} {key : Key} {order : Order Content}
      {manifest : List (String × Json)} {unique : String} :
      SiteMove signed ⟨tree, .working ⟨key, order, .linked manifest (pendingPath unique)⟩⟩ signed
        ⟨tree.erase (pendingPath unique), .working ⟨key, order, .published manifest⟩⟩
  | verify {tree : Tree Content} {key : Key} {order : Order Content}
      {manifest : List (String × Json)} {verified : VerifiedSnapshot}
      (accepted : toolkit.verifySnapshot key tree = some verified) :
      SiteMove signed ⟨tree, .working ⟨key, order, .published manifest⟩⟩ signed
        ⟨tree, .finished ⟨key, order, .published manifest⟩ manifest⟩
  | crash {tree : Tree Content} {job : Job Key Content} :
      SiteMove signed ⟨tree, .working job⟩ signed ⟨tree, .crashed job.phase.afterLink⟩
  | fail {tree : Tree Content} {job : Job Key Content} :
      SiteMove signed ⟨tree, .working job⟩ signed
        ⟨tree, .working { job with phase := .erasing job.phase.afterLink }⟩
  | erase {tree : Tree Content} {key : Key} {order : Order Content} {published : Bool}
      {path : String} :
      SiteMove signed ⟨tree, .working ⟨key, order, .erasing published⟩⟩ signed
        ⟨tree.erase path, .working ⟨key, order, .erasing published⟩⟩
  | tamper {site : Site Key Content} {tree : Tree Content}
      (genuine : ∀ inode, toolkit.Genuine signed (tree.content inode)) :
      SiteMove signed site signed ⟨tree, .foreign⟩

/-- A call begins, or something happens to a tree. -/
inductive WorldMove (world : World Key Content) : World Key Content → Prop
  | snapshot {tree : Tree Content} {key : Key} {group : Group} {createdAt : String}
      (empty : tree.nodes = []) (genuine : ∀ inode, toolkit.Genuine world.signed (tree.content inode)) :
      WorldMove world { world with
        sites := world.sites ++ [⟨tree, .working ⟨key, .snapshot group createdAt,
          .writing (@Order.tasks Content (.snapshot group createdAt)) []⟩⟩] }
  | restore {site : Site Key Content} {tree : Tree Content} {key : Key}
      {verified : VerifiedSnapshot} (member : site ∈ world.sites)
      (accepted : toolkit.verifySnapshot key site.tree = some verified)
      (empty : tree.nodes = []) (genuine : ∀ inode, toolkit.Genuine world.signed (tree.content inode)) :
      WorldMove world { world with
        sites := world.sites ++ [⟨tree, .working ⟨key, .restore site.tree verified.manifest,
          .writing (Order.tasks (.restore site.tree verified.manifest)) []⟩⟩] }
  | happen {before after : List (Site Key Content)} {site next : Site Key Content}
      {signed : List (Key × Json)} (found : world.sites = before ++ site :: after)
      (moved : toolkit.SiteMove world.signed site signed next) :
      WorldMove world ⟨before ++ next :: after, signed⟩

/-- Snapshots, restorations and others, in any order. -/
def snapshotSystem : TransitionSystem (World Key Content) where
  initial world := world.signed = [] ∧ ∀ site ∈ world.sites, site.status = .foreign ∧
    ∀ inode, toolkit.Genuine [] (site.tree.content inode)
  step := toolkit.WorldMove

end Toolkit

/-! ### Entries in order -/

variable {fields : List (String × Json)}

theorem entry_sorted (names : (fields.map Prod.fst).Nodup) (name : String) :
    entry ((Json.sortedFields fields).insertionSort Json.NameOrder) name =
      (entry fields name).sorted := by
  have names' : (((Json.sortedFields fields).insertionSort Json.NameOrder).map Prod.fst).Nodup := by
    refine ((Json.perm_sortedFields fields).map Prod.fst).nodup_iff.mpr ?_
    rw [Json.names_sortedFields]
    exact names
  unfold entry
  cases found : Json.get? fields name with
  | some value =>
    have member : (name, value) ∈ fields := by
      unfold Json.get? at found
      obtain ⟨field, chosen, rfl⟩ := Option.map_eq_some_iff.mp found
      have named := List.find?_some chosen
      rw [decide_eq_true_iff] at named
      exact named ▸ mem_of_find?_eq_some chosen
    have inside : (name, value.sorted) ∈ (Json.sortedFields fields).insertionSort Json.NameOrder := by
      refine (Json.perm_sortedFields fields).mem_iff.mpr ?_
      rw [Json.sortedFields_eq]
      exact mem_map.mpr ⟨(name, value), member, rfl⟩
    rw [Json.get?_eq_some names' inside]
    rfl
  | none =>
    have missing : Json.get? ((Json.sortedFields fields).insertionSort Json.NameOrder) name = none := by
      unfold Json.get? at found ⊢
      rw [Option.map_eq_none_iff, List.find?_eq_none] at found ⊢
      intro field inside
      have inside := (Json.perm_sortedFields fields).mem_iff.mp inside
      rw [Json.sortedFields_eq] at inside
      obtain ⟨old, member, rfl⟩ := mem_map.mp inside
      exact found old member
    rw [missing]
    rfl

theorem get?_map {change : String × Json → String × Json} {name : String}
    (names : ∀ field, (change field).1 = field.1)
    (kept : ∀ field, field.1 = name → change field = field) :
    Json.get? (fields.map change) name = Json.get? fields name := by
  unfold Json.get?
  have same : ((fun field : String × Json => decide (field.1 = name)) ∘ change) =
      fun field => decide (field.1 = name) := by
    funext field
    show decide ((change field).1 = name) = decide (field.1 = name)
    rw [names]
  rw [List.find?_map, same, Option.map_map]
  cases found : fields.find? fun field => field.1 = name with
  | none => rfl
  | some field =>
    have named := List.find?_some found
    rw [decide_eq_true_iff] at named
    show some (change field).2 = some field.2
    rw [kept field named]

theorem string?_sorted (value : Json) : string? value.sorted = string? value := by
  cases value <;> rfl

theorem size?_sorted (value : Json) : size? value.sorted = size? value := by
  cases value <;> rfl

theorem entry_distinct (distinct : (Json.object fields).Distinct) (name : String) :
    (entry fields name).Distinct := by
  cases distinct with
  | object names each =>
    unfold entry Json.get?
    cases found : fields.find? fun field => field.1 = name with
    | none => exact .null
    | some field => exact each field (mem_of_find?_eq_some found)

/-- The digest that is recorded of a member. -/
def memberDigest (member : Json) : Option String :=
  (fields? member).bind fun fields => string? (entry fields "sha256")

def membersOf (document : Json) : List Json := Toolkit.listed ((fields? document).getD [])

variable {member : Json}

theorem memberDigest_sorted (distinct : member.Distinct) :
    memberDigest member.sorted = memberDigest member := by
  cases member with
  | object fields =>
    cases distinct with
    | object names each =>
      show string? (entry _ "sha256") = string? (entry fields "sha256")
      rw [entry_sorted names, string?_sorted]
  | null | bool | int | float | negativeZero | string | array => rfl

theorem listed_sorted (names : (fields.map Prod.fst).Nodup) :
    membersOf (Json.object fields).sorted = (Toolkit.listed fields).map Json.sorted := by
  show Toolkit.listed ((Json.sortedFields fields).insertionSort Json.NameOrder) = _
  unfold Toolkit.listed
  rw [entry_sorted names]
  cases entry fields "members" with
  | array items => exact Json.sortedItems_eq items
  | null | bool | int | float | negativeZero | string | object => rfl

theorem listed_distinct (distinct : (Json.object fields).Distinct) :
    ∀ member ∈ Toolkit.listed fields, member.Distinct := by
  have members := entry_distinct distinct "members"
  unfold Toolkit.listed
  cases found : entry fields "members" with
  | array items =>
    rw [found] at members
    cases members with
    | array each => exact each
  | null | bool | int | float | negativeZero | string | object => exact fun _ member => nomatch member

theorem lists_sorted {Key Content : Type} {toolkit : Toolkit Key Content} {tree : Tree Content}
    {file : String × ℕ} (distinct : member.Distinct)
    (lists : toolkit.Lists tree member.sorted file) : toolkit.Lists tree member file := by
  obtain ⟨fields, shaped, validated, found, sized, digested⟩ := lists
  cases member with
  | object source =>
    cases distinct with
    | object names each =>
      cases shaped
      rw [entry_sorted names] at validated sized digested
      refine ⟨source, rfl, ?_, found, size?_sorted _ ▸ sized, string?_sorted _ ▸ digested⟩
      unfold validatedMemberPath at validated ⊢
      rw [string?_sorted] at validated
      exact validated
  | null | bool | int | float | negativeZero | string | array => cases shaped

/-! ### What was signed -/

namespace Toolkit

variable {Key Content : Type} (toolkit : Toolkit Key Content)

/-- Every digest that a signed manifest lists is that of a content which was there before without a
later tag. -/
def Grounded : List (Key × Json) → Prop
  | [] => True
  | issue :: earlier =>
    (∀ member ∈ membersOf issue.2, ∀ digest, memberDigest member = some digest →
      ∃ content, toolkit.digest content = digest ∧ toolkit.Genuine earlier content) ∧
    Grounded earlier

variable {toolkit} {signed : List (Key × Json)} {key : Key} {manifest : List (String × Json)}
  {plain : Json} {content : Content}

theorem Genuine.mono {more : List (Key × Json)} (genuine : toolkit.Genuine signed content)
    (within : ∀ issue ∈ signed, issue ∈ more) : toolkit.Genuine more content :=
  fun key manifest plain read authentic shown => within _ (genuine key manifest plain read authentic shown)

theorem unsigned_eq (shown : unsigned manifest = some plain) :
    ∃ authentication : List (String × Json), plain = .object (manifest.map fun field =>
      if field.1 = "authentication" then
        (field.1, .object (authentication.filter fun part => part.1 ≠ "tag"))
      else field) := by
  unfold unsigned at shown
  obtain ⟨authentication, -, shown⟩ := Option.bind_eq_some_iff.mp shown
  cases shown
  exact ⟨authentication, rfl⟩

theorem membersOf_unsigned (distinct : (Json.object manifest).Distinct)
    (shown : unsigned manifest = some plain) :
    membersOf plain.sorted = (listed manifest).map Json.sorted := by
  obtain ⟨authentication, rfl⟩ := unsigned_eq shown
  have names : ((manifest.map fun field => if field.1 = "authentication" then
      (field.1, Json.object (authentication.filter fun part => part.1 ≠ "tag"))
      else field).map Prod.fst) = manifest.map Prod.fst := by
    rw [map_map]
    refine map_congr_left fun field _ => ?_
    show (if field.1 = "authentication" then _ else field).1 = field.1
    split <;> rfl
  have kept : entry (manifest.map fun field => if field.1 = "authentication" then
      (field.1, Json.object (authentication.filter fun part => part.1 ≠ "tag"))
      else field) "members" = entry manifest "members" := by
    unfold entry
    rw [get?_map (fun field => ?_) fun field named => ?_]
    · split <;> rfl
    · rw [if_neg (named ▸ by decide)]
  cases distinct with
  | object nodup each =>
    rw [listed_sorted (names ▸ nodup)]
    unfold listed
    rw [kept]

theorem memberDigest_of_lists {tree : Tree Content} {file : String × ℕ}
    (lists : toolkit.Lists tree member file) :
    memberDigest member = some (toolkit.digest (tree.content file.2)) := by
  obtain ⟨fields, shaped, -, -, -, digested⟩ := lists
  unfold memberDigest
  rw [shaped]
  exact digested

theorem Grounded.not_own (grounded : toolkit.Grounded signed)
    (injective : Function.Injective toolkit.digest)
    (read : (toolkit.read content).bind fields? = some manifest)
    (authentic : toolkit.authentic key manifest = true) (shown : unsigned manifest = some plain)
    (own : ∃ member ∈ membersOf plain.sorted, memberDigest member = some (toolkit.digest content)) :
    (key, plain.sorted) ∉ signed := by
  obtain ⟨member, inside, digest⟩ := own
  induction signed with
  | nil => exact fun absurdity => nomatch absurdity
  | cons issue earlier hypothesis =>
    obtain ⟨backed, before⟩ := grounded
    intro signed
    rcases mem_cons.mp signed with rfl | old
    · obtain ⟨other, same, genuine⟩ := backed member inside _ digest
      cases injective same
      exact hypothesis before (genuine key manifest plain read authentic shown)
    · exact hypothesis before old

/-! ### Names of files -/

theorem componentPath_ne (name suffix : String) : componentPath name ++ suffix ≠ manifestName := by
  intro same
  have first := congrArg (fun text : String => text.toList.head?) same
  simp [componentPath, manifestName] at first

theorem pendingPath_ne (unique : String) : pendingPath unique ≠ manifestName := by
  intro same
  have first := congrArg (fun text : String => text.toList.head?) same
  simp [pendingPath, manifestName] at first

theorem writes_ne {task : Task} {path : String} (writes : task.Writes path) :
    path ≠ manifestName := by
  rcases writes with placed | ⟨name, -, member⟩
  · cases task with
    | component name =>
      cases placed
      have apart := componentPath_ne name ""
      rwa [String.append_empty] at apart
    | blob name =>
      cases placed
      intro same
      have first := congrArg (fun text : String => text.toList.head?) same
      simp [blobPath, manifestName] at first
    | marker =>
      cases placed
      decide
    | copy member =>
      obtain ⟨fields, -, validated⟩ := Option.bind_eq_some_iff.mp placed
      exact validatedMemberPath_ne validated
  · obtain ⟨suffix, -, rfl⟩ := mem_map.mp member
    exact componentPath_ne name suffix

/-! ### The invariant -/

def Bare (tree : Tree Content) : Prop := manifestName ∉ tree.nodes.map Prod.fst

variable (toolkit) in
/-- The manifest has its name and says what it should. -/
def Named (tree : Tree Content) (manifest : List (String × Json)) : Prop :=
  ∃ inode, tree.file? manifestName = some inode ∧
    tree.content inode = toolkit.write (Json.object manifest).encode

variable (toolkit) in
/-- The source of a restoration was verified. -/
def Sourced (key : Key) : Order Content → Prop
  | .snapshot _ _ => True
  | .restore source manifest => ∃ verified, toolkit.verifySnapshot key source = some verified ∧
      verified.manifest = manifest

/-- What a restoration publishes is the manifest of its source. -/
def Publishes (manifest : List (String × Json)) : Order Content → Prop
  | .snapshot _ _ => True
  | .restore _ source => manifest = source

variable (toolkit) in
/-- What was recorded of the files of a snapshot belongs to contents that were there. -/
def Backed (signed : List (Key × Json)) (done : List Json) : Prop :=
  ∀ member ∈ done, ∃ content, memberDigest member.sorted = some (toolkit.digest content) ∧
    toolkit.Genuine signed content

variable (toolkit) in
def JobSound (signed : List (Key × Json)) (tree : Tree Content) (job : Job Key Content) : Prop :=
  toolkit.Sourced job.key job.order ∧
    match job.phase with
    | .writing todo done => Bare tree ∧
        ((∃ group createdAt, job.order = .snapshot group createdAt) →
          (∀ task ∈ todo, ∀ member, task ≠ .copy member) ∧ toolkit.Backed signed done)
    | .publishing manifest => Bare tree ∧ Publishes manifest job.order
    | .linked manifest _ | .published manifest =>
      toolkit.Named tree manifest ∧ Publishes manifest job.order
    | .erasing published => published = false → Bare tree

variable (toolkit) in
def StatusSound (signed : List (Key × Json)) (tree : Tree Content) : Status Key Content → Prop
  | .working job => toolkit.JobSound signed tree job
  | .crashed published => published = false → Bare tree
  | .finished job manifest => toolkit.Sourced job.key job.order ∧ toolkit.Named tree manifest ∧
      Publishes manifest job.order ∧ ∃ verified, toolkit.verifySnapshot job.key tree = some verified
  | .foreign => True

variable (toolkit) in
structure SiteSound (signed : List (Key × Json)) (site : Site Key Content) : Prop where
  genuine : ∀ inode, toolkit.Genuine signed (site.tree.content inode)
  status : toolkit.StatusSound signed site.tree site.status

variable (toolkit) in
structure WorldSound (world : World Key Content) : Prop where
  grounded : toolkit.Grounded world.signed
  sites : ∀ site ∈ world.sites, toolkit.SiteSound world.signed site

section Keeps

variable {tree : Tree Content} {path : String} {inode : ℕ}

theorem Bare.create (bare : Bare tree) (other : path ≠ manifestName)
    (absent : path ∉ tree.nodes.map Prod.fst) : Bare (tree.create path inode content absent) := by
  intro member
  rw [show (tree.create path inode content absent).nodes = tree.nodes ++ [(path, .file inode)] from
    rfl, map_append, mem_append] at member
  rcases member with old | new
  · exact bare old
  · exact other (mem_singleton.mp new).symm

theorem Bare.erase (bare : Bare tree) : Bare (tree.erase path) :=
  fun member => bare ((filter_sublist.map Prod.fst).subset member)

theorem file?_link (absent : manifestName ∉ tree.nodes.map Prod.fst) :
    (tree.link manifestName inode absent).file? manifestName = some inode := by
  have missing : tree.nodes.find? (fun node => node.1 = manifestName) = none := by
    rw [List.find?_eq_none]
    intro node member same
    rw [decide_eq_true_iff] at same
    exact absent (same ▸ mem_map_of_mem member)
  unfold Tree.file? Tree.link
  rw [List.find?_append, missing]
  simp

theorem file?_erase (other : path ≠ manifestName) :
    (tree.erase path).file? manifestName = tree.file? manifestName := by
  unfold Tree.file? Tree.erase
  rw [List.find?_filter]
  have same : (fun node : String × Node => decide (decide (node.1 ≠ path) = true ∧
      decide (node.1 = manifestName) = true)) = fun node => decide (node.1 = manifestName) := by
    funext node
    by_cases named : node.1 = manifestName
    · simp [named, other.symm]
    · simp [named]
  rw [same]

theorem Named.erase (named : toolkit.Named tree manifest) (other : path ≠ manifestName) :
    toolkit.Named (tree.erase path) manifest := by
  obtain ⟨inode, found, written⟩ := named
  exact ⟨inode, (file?_erase other).trans found, written⟩

theorem verifySnapshot_bare (bare : Bare tree) : toolkit.verifySnapshot key tree = none := by
  have missing : tree.file? manifestName = none := by
    unfold Tree.file?
    have none : tree.nodes.find? (fun node => node.1 = manifestName) = none := by
      rw [List.find?_eq_none]
      intro node member same
      rw [decide_eq_true_iff] at same
      exact bare (same ▸ mem_map_of_mem member)
    rw [none]
    rfl
  unfold verifySnapshot readManifest
  rw [missing]
  rfl

end Keeps

theorem record_digest {task : Task} (recorded : toolkit.record content task = some member)
    (own : ∀ source, task ≠ .copy source) :
    memberDigest member.sorted = some (toolkit.digest content) := by
  cases task with
  | component name =>
    obtain ⟨details, -, recorded⟩ := Option.bind_eq_some_iff.mp recorded
    cases recorded
    show string? (entry ((Json.sortedFields _).insertionSort _) _) = _
    rw [entry_sorted (by simp [memberFields])]
    rfl
  | blob name =>
    cases recorded
    show string? (entry ((Json.sortedFields _).insertionSort _) _) = _
    rw [entry_sorted (by simp [memberFields])]
    rfl
  | marker =>
    cases recorded
    show string? (entry ((Json.sortedFields _).insertionSort _) _) = _
    rw [entry_sorted (by simp [memberFields])]
    rfl
  | copy source => exact absurd rfl (own source)

/-! ### Moves keep the invariant -/

section Moves

variable {more : List (Key × Json)} {site next : Site Key Content} {tree : Tree Content}
  {inode : ℕ}

theorem Backed.mono {done : List Json} (backed : toolkit.Backed signed done)
    (within : ∀ issue ∈ signed, issue ∈ more) : toolkit.Backed more done := by
  intro member inside
  obtain ⟨content, digest, genuine⟩ := backed member inside
  exact ⟨content, digest, genuine.mono within⟩

theorem SiteSound.mono (sound : toolkit.SiteSound signed site)
    (within : ∀ issue ∈ signed, issue ∈ more) : toolkit.SiteSound more site := by
  refine ⟨fun inode => (sound.genuine inode).mono within, ?_⟩
  have status := sound.status
  unfold StatusSound at status ⊢
  split at status
  · rename_i job _
    refine ⟨status.1, ?_⟩
    have rest := status.2
    split at rest
    · exact ⟨rest.1, fun snapshot => ⟨(rest.2 snapshot).1, (rest.2 snapshot).2.mono within⟩⟩
    · exact rest
    · exact rest
    · exact rest
    · exact rest
  · exact status
  · exact status
  · trivial

theorem genuine_update {contents : ℕ → Content}
    (genuine : ∀ inode, toolkit.Genuine signed (contents inode))
    (new : toolkit.Genuine signed content) (other : ℕ) :
    toolkit.Genuine signed (if other = inode then content else contents other) := by
  split
  · exact new
  · exact genuine other

theorem membersOf_manifest {group : Group} {createdAt : String} {done : List Json}
    (inside : member ∈ membersOf (Json.object (toolkit.manifest key group createdAt done)).sorted) :
    ∃ recorded ∈ done, member = recorded.sorted := by
  rw [listed_sorted (by simp [manifest])] at inside
  obtain ⟨recorded, listed, rfl⟩ := mem_map.mp inside
  exact ⟨recorded, mem_insertionSort _ |>.mp listed, rfl⟩

theorem SiteMove.sound (moved : toolkit.SiteMove signed site more next)
    (sound : toolkit.SiteSound signed site) (grounded : toolkit.Grounded signed) :
    toolkit.SiteSound more next ∧ toolkit.Grounded more ∧ ∀ issue ∈ signed, issue ∈ more := by
  have genuine := sound.genuine
  have status := sound.status
  cases moved with
  | create writes absent fresh new =>
    obtain ⟨sourced, bare, rest⟩ := status
    exact ⟨⟨genuine_update genuine new, sourced, bare.create (writes_ne writes) absent, rest⟩,
      grounded, fun _ member => member⟩
  | grow writes found new =>
    exact ⟨⟨genuine_update genuine new, status⟩, grounded, fun _ member => member⟩
  | tidy writes =>
    obtain ⟨sourced, bare, rest⟩ := status
    exact ⟨⟨genuine, sourced, bare.erase, rest⟩, grounded, fun _ member => member⟩
  | @record tree key order task todo done path inode member placed found complete recorded =>
    obtain ⟨sourced, bare, rest⟩ := status
    refine ⟨⟨genuine, sourced, bare, fun snapshot => ?_⟩, grounded, fun _ member => member⟩
    obtain ⟨own, backed⟩ := rest snapshot
    refine ⟨fun task member => own task (mem_cons_of_mem _ member), fun other inside => ?_⟩
    rcases mem_append.mp inside with old | new
    · exact backed other old
    · rw [mem_singleton.mp new]
      exact ⟨_, record_digest recorded (own task mem_cons_self), genuine inode⟩
  | @sign tree key group createdAt done =>
    obtain ⟨sourced, bare, rest⟩ := status
    obtain ⟨-, backed⟩ := rest ⟨group, createdAt, rfl⟩
    refine ⟨⟨fun inode => (genuine inode).mono fun _ member => mem_cons_of_mem _ member,
      sourced, bare, trivial⟩, ⟨fun member inside digest shown => ?_, grounded⟩,
      fun _ member => mem_cons_of_mem _ member⟩
    obtain ⟨recorded, known, rfl⟩ := membersOf_manifest inside
    obtain ⟨content, digested, earlier⟩ := backed recorded known
    cases digested.symm.trans shown
    exact ⟨content, rfl, earlier⟩
  | reread =>
    obtain ⟨sourced, bare, -⟩ := status
    exact ⟨⟨genuine, sourced, bare, rfl⟩, grounded, fun _ member => member⟩
  | createPending absent fresh new =>
    obtain ⟨sourced, bare, publishes⟩ := status
    exact ⟨⟨genuine_update genuine new, sourced, bare.create (pendingPath_ne _) absent, publishes⟩,
      grounded, fun _ member => member⟩
  | growPending found new =>
    exact ⟨⟨genuine_update genuine new, status⟩, grounded, fun _ member => member⟩
  | link absent found written =>
    obtain ⟨sourced, -, publishes⟩ := status
    exact ⟨⟨genuine, sourced, ⟨_, file?_link absent, written⟩, publishes⟩, grounded,
      fun _ member => member⟩
  | unlink =>
    obtain ⟨sourced, named, publishes⟩ := status
    exact ⟨⟨genuine, sourced, named.erase (pendingPath_ne _), publishes⟩, grounded,
      fun _ member => member⟩
  | verify accepted =>
    obtain ⟨sourced, named, publishes⟩ := status
    exact ⟨⟨genuine, sourced, named, publishes, _, accepted⟩, grounded, fun _ member => member⟩
  | @crash tree job =>
    refine ⟨⟨genuine, fun early => ?_⟩, grounded, fun _ member => member⟩
    obtain ⟨-, rest⟩ := status
    cases phase : job.phase <;> rw [phase] at rest early
    case writing | publishing => exact rest.1
    case linked | published => cases early
    case erasing => exact rest early
  | @fail tree job =>
    refine ⟨⟨genuine, status.1, fun early => ?_⟩, grounded, fun _ member => member⟩
    obtain ⟨-, rest⟩ := status
    cases phase : job.phase <;> rw [phase] at rest early
    case writing | publishing => exact rest.1
    case linked | published => cases early
    case erasing => exact rest early
  | erase =>
    obtain ⟨sourced, rest⟩ := status
    exact ⟨⟨genuine, sourced, fun early => (rest early).erase⟩, grounded, fun _ member => member⟩
  | tamper new => exact ⟨⟨new, trivial⟩, grounded, fun _ member => member⟩

theorem snapshotSystem_sound {world : World Key Content}
    (reachable : toolkit.snapshotSystem.Reachable world) : toolkit.WorldSound world := by
  refine reachable.invariant toolkit.WorldSound (fun world initial => ?_)
    fun world next _ sound step => ?_
  · obtain ⟨signed, foreign⟩ := initial
    refine ⟨signed ▸ trivial, fun site member => ?_⟩
    obtain ⟨status, genuine⟩ := foreign site member
    refine ⟨signed ▸ genuine, ?_⟩
    rw [status]
    trivial
  · cases step with
    | @snapshot tree key group createdAt empty genuine =>
      refine ⟨sound.grounded, fun site member => ?_⟩
      rcases mem_append.mp member with old | new
      · exact sound.sites site old
      · rw [mem_singleton.mp new]
        refine ⟨genuine, trivial, ?_, fun _ => ⟨fun task inside member same => ?_,
          fun _ absurdity => nomatch absurdity⟩⟩
        · show manifestName ∉ tree.nodes.map Prod.fst
          rw [empty]
          exact not_mem_nil
        · rw [same] at inside
          simp [Order.tasks] at inside
    | @restore site tree key verified member accepted empty genuine =>
      refine ⟨sound.grounded, fun other inside => ?_⟩
      rcases mem_append.mp inside with old | new
      · exact sound.sites other old
      · rw [mem_singleton.mp new]
        refine ⟨genuine, ⟨verified, accepted, rfl⟩, ?_, ?_⟩
        · show manifestName ∉ tree.nodes.map Prod.fst
          rw [empty]
          exact not_mem_nil
        · rintro ⟨group, createdAt, absurdity⟩
          cases absurdity
    | @happen before after site next signed found moved =>
      have here : site ∈ world.sites := found ▸ mem_append_right _ mem_cons_self
      obtain ⟨moved, grounded, within⟩ := moved.sound (sound.sites site here) sound.grounded
      refine ⟨grounded, fun other inside => ?_⟩
      have kept : other ∈ world.sites → toolkit.SiteSound signed other :=
        fun member => (sound.sites other member).mono within
      rw [found] at kept
      rcases mem_append.mp inside with old | new
      · exact kept (mem_append_left _ old)
      · rcases mem_cons.mp new with rfl | old
        · exact moved
        · exact kept (mem_append_right _ (mem_cons_of_mem _ old))

end Moves

end Toolkit

open Option Bool Function

/-- SQLite keeps the tables whose rows the digest leaves out for itself. -/
def Store.Ordinary (store : Store) : Prop :=
  ∀ name, store.HasTable name → skipped name = true → internal name = true

theorem Store.agrees_ordinary_iff {left right : Store} (ordinary : left.Ordinary) :
    (left.Agrees right fun name => !skipped name) ↔
      left.Agrees right fun name => !internal name := by
  constructor
  · intro agrees
    refine ⟨agrees.schema, agrees.applicationId, agrees.userVersion, agrees.sequence,
      fun name table covered => agrees.rows name table ?_⟩
    rw [not_eq_true', ← not_eq_true] at covered ⊢
    exact fun pattern => covered (ordinary name table pattern)
  · intro agrees
    refine ⟨agrees.schema, agrees.applicationId, agrees.userVersion, agrees.sequence,
      fun name table covered => agrees.rows name table ?_⟩
    rw [not_eq_true', ← not_eq_true] at covered ⊢
    exact fun own => covered (skipped_of_internal own)

namespace Toolkit

variable {Key Content : Type} {toolkit : Toolkit Key Content} {key : Key}
  {tree source : Tree Content} {manifest original : List (String × Json)}

theorem readManifest_eq_some (read : toolkit.readManifest tree = some manifest) :
    ∃ inode, tree.file? manifestName = some inode ∧
      (toolkit.read (tree.content inode)).bind fields? = some manifest := by
  unfold readManifest at read
  obtain ⟨inode, found, read⟩ := bind_eq_some_iff.mp read
  obtain ⟨_, -, read⟩ := bind_eq_some_iff.mp read
  exact ⟨inode, found, read⟩

theorem read_object {content : Content}
    (read : (toolkit.read content).bind fields? = some manifest) :
    toolkit.read content = some (.object manifest) := by
  obtain ⟨value, found, shaped⟩ := bind_eq_some_iff.mp read
  cases value with
  | object fields =>
    cases shaped
    exact found
  | null | bool | int | float | negativeZero | string | array => cases shaped

theorem unsigned_of_authentic (authentic : toolkit.authentic key manifest = true) :
    ∃ plain, unsigned manifest = some plain := by
  unfold Toolkit.authentic at authentic
  split at authentic
  · exact ⟨_, ‹_›⟩
  · cases authentic

variable (toolkit) in
/-- The copy has the manifest of the source, as a dictionary, and the contents of its members. -/
def Restores (source tree : Tree Content) (original manifest : List (String × Json)) : Prop :=
  Json.object manifest = (Json.object original).sorted ∧
    ∃ files copies, toolkit.Consists source original files ∧ toolkit.Consists tree manifest copies ∧
      List.Forall₂ (fun file copy => file.1 = copy.1 ∧
        source.content file.2 = tree.content copy.2) files copies

theorem lists_agree (injective : Injective toolkit.digest)
    {file copy : String × ℕ} (lists : toolkit.Lists source member file)
    (copied : toolkit.Lists tree member copy) :
    file.1 = copy.1 ∧ source.content file.2 = tree.content copy.2 := by
  obtain ⟨fields, shaped, validated, -, -, digested⟩ := lists
  obtain ⟨fields', shaped', validated', -, -, digested'⟩ := copied
  cases shaped.symm.trans shaped'
  exact ⟨Option.some.inj (validated.symm.trans validated'),
    injective (Option.some.inj (digested.symm.trans digested'))⟩

variable {members : List Json} {copies : List (String × ℕ)}

theorem forall₂_agree (injective : Injective toolkit.digest) {files : List (String × ℕ)}
    (lists : List.Forall₂ (toolkit.Lists source) members files)
    (copied : List.Forall₂ (toolkit.Lists tree) members copies) :
    List.Forall₂ (fun file copy => file.1 = copy.1 ∧
      source.content file.2 = tree.content copy.2) files copies := by
  induction lists generalizing copies with
  | nil =>
    cases copied
    exact .nil
  | cons here _ hypothesis =>
    cases copied with
    | cons there rest => exact .cons (lists_agree injective here there) (hypothesis rest)

theorem forall₂_lists_sorted (distinct : ∀ member ∈ members, member.Distinct)
    (copied : List.Forall₂ (toolkit.Lists tree) (members.map Json.sorted) copies) :
    List.Forall₂ (toolkit.Lists tree) members copies := by
  induction members generalizing copies with
  | nil =>
    cases copied
    exact .nil
  | cons member members hypothesis =>
    cases copied with
    | cons here rest =>
      exact .cons (lists_sorted (distinct member mem_cons_self) here)
        (hypothesis (fun other inside => distinct other (mem_cons_of_mem _ inside)) rest)

variable {verified : VerifiedSnapshot}

theorem restores_of_named (injective : Injective toolkit.digest)
    {copied : VerifiedSnapshot} (accepted : toolkit.verifySnapshot key source = some verified)
    (named : toolkit.Named tree verified.manifest)
    (again : toolkit.verifySnapshot key tree = some copied) :
    toolkit.Restores source tree verified.manifest copied.manifest := by
  obtain ⟨files, read, -, consists⟩ := verifySnapshot_verified accepted
  obtain ⟨copies, read', -, consists'⟩ := verifySnapshot_verified again
  obtain ⟨_, -, found⟩ := readManifest_eq_some read
  have distinct := toolkit.read_distinct _ _ (read_object found)
  obtain ⟨inode, opened, written⟩ := named
  obtain ⟨inode', opened', found'⟩ := readManifest_eq_some read'
  cases opened.symm.trans opened'
  have shown := read_object found'
  rw [written, toolkit.read_write _ distinct, Option.some.injEq] at shown
  refine ⟨shown.symm, files, copies, consists, consists', ?_⟩
  have members : listed copied.manifest = (listed verified.manifest).map Json.sorted := by
    cases distinct with
    | object names each =>
      rw [← listed_sorted names, shown]
      rfl
  refine forall₂_agree injective consists.listed (forall₂_lists_sorted (listed_distinct distinct) ?_)
  rw [← members]
  exact consists'.listed

theorem verified_signed (injective : Injective toolkit.digest)
    {signed : List (Key × Json)} (grounded : toolkit.Grounded signed)
    (genuine : ∀ inode, toolkit.Genuine signed (tree.content inode))
    (accepted : toolkit.verifySnapshot key tree = some verified) :
    ∃ files inode plain, toolkit.Consists tree verified.manifest files ∧
      tree.file? manifestName = some inode ∧ inode ∉ files.map Prod.snd ∧
      unsigned verified.manifest = some plain ∧ (key, plain.sorted) ∈ signed := by
  obtain ⟨files, read, authentic, consists⟩ := verifySnapshot_verified accepted
  obtain ⟨inode, opened, found⟩ := readManifest_eq_some read
  obtain ⟨plain, shown⟩ := unsigned_of_authentic authentic
  have issued := genuine inode key verified.manifest plain found authentic shown
  refine ⟨files, inode, plain, consists, opened, fun inside => ?_, shown, issued⟩
  obtain ⟨file, member, same⟩ := mem_map.mp inside
  obtain ⟨entry, listed, lists⟩ := forall₂_right consists.listed member
  have distinct := toolkit.read_distinct _ _ (read_object found)
  refine grounded.not_own injective found authentic shown ⟨entry.sorted, ?_, ?_⟩ issued
  · rw [membersOf_unsigned distinct shown]
    exact mem_map_of_mem listed
  · rw [memberDigest_sorted (listed_distinct distinct entry listed), memberDigest_of_lists lists, same]

/-- Verified trees are what snapshots have signed, finished trees verify, unpublished ones do not,
and restorations copy. -/
theorem snapshots_authentic {world : World Key Content}
    (injective : Injective toolkit.digest)
    (reachable : toolkit.snapshotSystem.Reachable world) :
    (∀ site ∈ world.sites, ∀ key verified, toolkit.verifySnapshot key site.tree = some verified →
        ∃ files inode plain, toolkit.Consists site.tree verified.manifest files ∧
          site.tree.file? manifestName = some inode ∧ inode ∉ files.map Prod.snd ∧
          unsigned verified.manifest = some plain ∧ (key, plain.sorted) ∈ world.signed) ∧
    (∀ site ∈ world.sites, ∀ job manifest, site.status = .finished job manifest →
      ∃ verified, toolkit.verifySnapshot job.key site.tree = some verified ∧
        ∀ source original, job.order = .restore source original →
          toolkit.Restores source site.tree original verified.manifest) ∧
    (∀ site ∈ world.sites, site.status = .crashed false →
      ∀ key, toolkit.verifySnapshot key site.tree = none) ∧
    ∀ left right : Store, Store.Separates toolkit.hashing left right → left.Ordinary →
      (left.logicalDigest toolkit.hashing = right.logicalDigest toolkit.hashing ↔
        left.Agrees right fun name => !internal name) := by
  have sound := snapshotSystem_sound reachable
  refine ⟨fun site member key verified accepted => ?_, fun site member job manifest finished => ?_,
    fun site member crashed key => ?_, fun left right separates ordinary => ?_⟩
  · exact verified_signed injective sound.grounded (sound.sites site member).genuine accepted
  · have status := (sound.sites site member).status
    rw [finished] at status
    obtain ⟨sourced, named, publishes, verified, accepted⟩ := status
    refine ⟨verified, accepted, fun source original restore => ?_⟩
    rw [restore] at sourced publishes
    obtain ⟨first, checked, rfl⟩ := sourced
    obtain rfl : manifest = first.manifest := publishes
    exact restores_of_named injective checked named accepted
  · have status := (sound.sites site member).status
    rw [crashed] at status
    exact verifySnapshot_bare (status rfl)
  · rw [Store.logicalDigest_eq_iff separates]
    exact Store.agrees_ordinary_iff ordinary

end Toolkit

/-! ### A snapshot -/

/-- The contents of the example: documents, the marker and one database. -/
inductive SampleContent where
  | document (value : Json) (distinct : value.Distinct)
  | marker
  | database

/-- A lexeme as a kind, two numbers and a text. -/
def lexemeCode : Json.Lexeme → ℕ × ℤ × ℚ × List ℕ
  | .null => (0, 0, 0, [])
  | .bool value => (1, if value then 1 else 0, 0, [])
  | .int value => (2, value, 0, [])
  | .float value => (3, 0, value, [])
  | .negativeZero => (4, 0, 0, [])
  | .string text => (5, 0, 0, text.toList.map Char.toNat)
  | .openArray => (6, 0, 0, [])
  | .closeArray => (7, 0, 0, [])
  | .openObject => (8, 0, 0, [])
  | .closeObject => (9, 0, 0, [])
  | .comma => (10, 0, 0, [])
  | .colon => (11, 0, 0, [])

theorem lexemeCode_injective : Injective lexemeCode := by
  intro left right same
  have numbers : Injective Char.toNat := fun first second equal =>
    Char.ext (UInt32.toNat_inj.mp equal)
  cases left <;> cases right <;> simp_all [lexemeCode, String.toList_inj, numbers.list_map.eq_iff]
  case bool.bool first second => cases first <;> cases second <;> simp_all

instance : Countable Json.Lexeme := lexemeCode_injective.countable

/-- Texts have different numbers. -/
noncomputable def textNumber : Json.Text → ℕ := (exists_injective_nat Json.Text).choose

theorem textNumber_injective : Injective textNumber :=
  (exists_injective_nat Json.Text).choose_spec

/-- The digests of the example: those of the two files are hexadecimal. -/
noncomputable def sampleFileDigest : SampleContent → String
  | .document value _ => String.ofList (List.replicate (65 + textNumber value.plain) 'x')
  | .marker => String.ofList (List.replicate 64 '0')
  | .database => String.ofList (List.replicate 64 '1')

theorem sampleFileDigest_injective : Injective sampleFileDigest := by
  have different : ∀ (value : Json) (distinct : value.Distinct) (digit : Char),
      sampleFileDigest (.document value distinct) ≠ String.ofList (List.replicate 64 digit) := by
    intro value distinct digit same
    have written : String.ofList (List.replicate (65 + textNumber value.plain) 'x') =
      String.ofList (List.replicate 64 digit) := same
    have lists := String.ofList_injective written
    have lengths := congrArg List.length lists
    rw [length_replicate, length_replicate] at lengths
    omega
  intro left right same
  cases left with
  | document value distinct =>
    cases right with
    | document other distinct' =>
      have lengths := congrArg List.length (String.ofList_injective same)
      rw [length_replicate, length_replicate] at lengths
      have texts := textNumber_injective (Nat.add_left_cancel lengths)
      have read := Json.loads_plain distinct
      rw [texts, Json.loads_plain distinct', Option.some.injEq] at read
      cases read
      rfl
    | marker => exact absurd same (different value distinct '0')
    | database => exact absurd same (different value distinct '1')
  | marker =>
    cases right with
    | document other distinct' => exact absurd same.symm (different other distinct' '0')
    | marker => rfl
    | database => exact absurd same (by decide)
  | database =>
    cases right with
    | document other distinct' => exact absurd same.symm (different other distinct' '1')
    | marker => exact absurd same (by decide)
    | database => rfl

/-- A document with the text, if there is one. -/
noncomputable def sampleWrite (text : Json.Text) : SampleContent :=
  open Classical in
  if written : ∃ value : Json, value.Distinct ∧ value.encode = text then
    .document written.choose.sorted written.choose_spec.1.ordered.distinct
  else .marker

theorem sampleWrite_encode {value : Json} (distinct : value.Distinct) :
    sampleWrite value.encode = .document value.sorted distinct.ordered.distinct := by
  have written : ∃ other : Json, other.Distinct ∧ other.encode = value.encode :=
    ⟨value, distinct, rfl⟩
  unfold sampleWrite
  rw [dif_pos written]
  have same := (encode_append_inj written.choose_spec.1 distinct
    (congrArg (· ++ []) written.choose_spec.2)).1
  simp only [same]

def sampleDatabase : Store := ⟨[], 0, 0, fun _ => [], [], .nil⟩

/-- What the example is made with. -/
noncomputable def sampleToolkit : Toolkit Unit SampleContent where
  size
    | .document _ _ => 1
    | .marker => 2
    | .database => 3
  digest := sampleFileDigest
  hashing := ⟨fun _ => "", fun _ => ""⟩
  keyId _ := "key"
  mac _ _ := String.ofList (List.replicate 64 't')
  read
    | .document value _ => some value
    | _ => none
  write := sampleWrite
  store
    | .database => some sampleDatabase
    | _ => none
  metadata _ := some []
  marker := .marker
  read_distinct content value found := by
    cases content <;> cases found
    assumption
  read_write value distinct := by
    rw [sampleWrite_encode distinct]

def sampleGroup : Group := ⟨"group", [("main", "/main.sqlite3")], []⟩

/-- The members that the example records. -/
noncomputable def sampleMembers : List Json :=
  [.object (sampleToolkit.memberFields "sqlite" "main" "component-main.sqlite3" .database ++
      [("sqlite", .object [("logical_sha256", .string "")])]),
    .object (sampleToolkit.memberFields "activation-marker" readOnlyMarker readOnlyMarker .marker)]

/-- The manifest that the example publishes. -/
noncomputable def sampleManifest : List (String × Json) :=
  sampleToolkit.authenticate () (sampleToolkit.manifest () sampleGroup "now" sampleMembers)

/-- What the example signs. -/
noncomputable def sampleSigned : List (Unit × Json) :=
  [((), (Json.object (sampleToolkit.manifest () sampleGroup "now" sampleMembers)).sorted)]

theorem distinct_object (names : (fields.map Prod.fst).Nodup)
    (each : fields.Forall fun field => field.2.Distinct) : (Json.object fields).Distinct :=
  .object names (forall_iff_forall_mem.mp each)

theorem sampleManifest_distinct : (Json.object sampleManifest).Distinct := by
  have members : ∀ member ∈ sampleMembers, member.Distinct := by
    refine forall_iff_forall_mem.mp ⟨?_, ?_⟩
    · exact distinct_object (by decide) ⟨.string _, .string _, .string _, .int _, .string _,
        distinct_object (by decide) (.string _)⟩
    · exact distinct_object (by decide) ⟨.string _, .string _, .string _, .int _, .string _⟩
  refine distinct_object (by decide) ⟨.string _, .int _, .string _, ?_, ?_, ?_, ?_, ?_⟩
  · exact distinct_object (by decide) ⟨.string _, distinct_object (by decide) (.string _),
      distinct_object (by decide) trivial, .string _⟩
  · exact .array fun member inside => members member (mem_insertionSort _ |>.mp inside)
  · exact distinct_object (by decide) ⟨.bool _, .string _, .bool _, .bool _,
      distinct_object (by decide) (.string _)⟩
  · exact distinct_object (by decide) ⟨.bool _, .bool _, .bool _⟩
  · exact distinct_object (by decide) ⟨.string _, .string _, .string _⟩

def sampleEmpty : Tree SampleContent := ⟨[], fun _ => .marker, nodup_nil⟩

def samplePlaced : Tree SampleContent :=
  sampleEmpty.create "component-main.sqlite3" 0 .database (by decide)

def sampleMarked : Tree SampleContent := samplePlaced.create readOnlyMarker 1 .marker (by decide)

noncomputable def samplePending : Tree SampleContent :=
  sampleMarked.create (Toolkit.pendingPath "1") 2
    (.document (Json.object sampleManifest).sorted sampleManifest_distinct.ordered.distinct)
    (by decide)

noncomputable def sampleLinked : Tree SampleContent :=
  samplePending.link manifestName 2 (by decide +kernel)

noncomputable def sampleTree : Tree SampleContent := sampleLinked.erase (Toolkit.pendingPath "1")

theorem sampleTree_verified : (sampleToolkit.verifySnapshot () sampleTree).isSome = true := by
  decide +kernel

theorem sampleManifest_genuine : sampleToolkit.Genuine sampleSigned
    (.document (Json.object sampleManifest).sorted sampleManifest_distinct.ordered.distinct) := by
  intro key manifest plain read authentic shown
  cases read
  cases shown
  exact mem_singleton.mpr rfl

theorem genuine_of_unread {signed : List (Unit × Json)} {content : SampleContent}
    (unread : sampleToolkit.read content = none) : sampleToolkit.Genuine signed content := by
  intro key manifest plain read
  rw [unread] at read
  cases read

theorem happens {site next : Site Unit SampleContent} {signed more : List (Unit × Json)}
    (moved : sampleToolkit.SiteMove signed site more next) :
    sampleToolkit.WorldMove ⟨[site], signed⟩ ⟨[next], more⟩ :=
  @Toolkit.WorldMove.happen _ _ _ ⟨[site], signed⟩ [] [] site next more rfl moved

def sampleWorking (tree : Tree SampleContent) (phase : Phase) (signed : List (Unit × Json)) :
    World Unit SampleContent :=
  ⟨[⟨tree, .working ⟨(), .snapshot sampleGroup "now", phase⟩⟩], signed⟩

/-- The world of the example after the snapshot. -/
noncomputable def sampleWorld : World Unit SampleContent :=
  ⟨[⟨sampleTree, .finished ⟨(), .snapshot sampleGroup "now", .published sampleManifest⟩
    sampleManifest⟩], sampleSigned⟩

theorem sampleWorld_reachable : sampleToolkit.snapshotSystem.Reachable sampleWorld := by
  obtain ⟨verified, accepted⟩ := isSome_iff_exists.mp sampleTree_verified
  have started : sampleToolkit.snapshotSystem.Reachable ⟨[], []⟩ :=
    .start ⟨rfl, fun _ absurdity => nomatch absurdity⟩
  have begun : sampleToolkit.snapshotSystem.Reachable
      (sampleWorking sampleEmpty (.writing [.component "main", .marker] []) []) :=
    started.next (.snapshot rfl fun _ => genuine_of_unread rfl)
  have placed : sampleToolkit.snapshotSystem.Reachable
      (sampleWorking samplePlaced (.writing [.component "main", .marker] []) []) :=
    begun.next (happens (.create (.inl rfl) (by decide) (by decide) (genuine_of_unread rfl)))
  have recorded : sampleToolkit.snapshotSystem.Reachable
      (sampleWorking samplePlaced (.writing [.marker] (sampleMembers.take 1)) []) :=
    placed.next (happens (.record rfl rfl trivial rfl))
  have marked : sampleToolkit.snapshotSystem.Reachable
      (sampleWorking sampleMarked (.writing [.marker] (sampleMembers.take 1)) []) :=
    recorded.next (happens (.create (.inl rfl) (by decide) (by decide) (genuine_of_unread rfl)))
  have written : sampleToolkit.snapshotSystem.Reachable
      (sampleWorking sampleMarked (.writing [] sampleMembers) []) :=
    marked.next (happens (.record rfl rfl rfl rfl))
  have signed : sampleToolkit.snapshotSystem.Reachable
      (sampleWorking sampleMarked (.publishing sampleManifest) sampleSigned) :=
    written.next (happens .sign)
  have pending : sampleToolkit.snapshotSystem.Reachable
      (sampleWorking samplePending (.publishing sampleManifest) sampleSigned) :=
    signed.next (happens (.createPending (by decide) (by decide) sampleManifest_genuine))
  have linked : sampleToolkit.snapshotSystem.Reachable (sampleWorking sampleLinked
      (.linked sampleManifest (Toolkit.pendingPath "1")) sampleSigned) :=
    pending.next (happens (.link (by decide +kernel) rfl
      (sampleWrite_encode sampleManifest_distinct).symm))
  have published : sampleToolkit.snapshotSystem.Reachable
      (sampleWorking sampleTree (.published sampleManifest) sampleSigned) :=
    linked.next (happens .unlink)
  exact published.next (happens (.verify accepted))

/-- The snapshot of the example verifies, and its manifest was signed. -/
theorem snapshots_authentic_sample : ∃ verified files inode plain,
    sampleToolkit.verifySnapshot () sampleTree = some verified ∧
      sampleToolkit.Consists sampleTree verified.manifest files ∧
      sampleTree.file? manifestName = some inode ∧ inode ∉ files.map Prod.snd ∧
      Toolkit.unsigned verified.manifest = some plain ∧ ((), plain.sorted) ∈ sampleSigned := by
  obtain ⟨verified, accepted⟩ := isSome_iff_exists.mp sampleTree_verified
  obtain ⟨files, inode, plain, found⟩ :=
    (Toolkit.snapshots_authentic sampleFileDigest_injective sampleWorld_reachable).1 _
      mem_cons_self () verified accepted
  exact ⟨verified, files, inode, plain, accepted, found⟩

/-! ### Statistics -/

/-- A database with statistics of a table, as `ANALYZE` leaves them. -/
def sampleAnalysed (statistics : String) : Store where
  schema := [⟨"table", "sqlite_stat1", "sqlite_stat1", "CREATE TABLE sqlite_stat1(tbl,idx,stat)"⟩]
  applicationId := 0
  userVersion := 0
  rows name := if name = "sqlite_stat1" then [[.text "jobs", .null, .text statistics]] else []
  sequence := []
  named := pairwise_singleton _ _

/-- With any hash function, nothing that is hashed for the two databases collides, and their rows
differ. -/
theorem sampleAnalysed_separates (hashing : Hashing) :
    Store.Separates hashing (sampleAnalysed "1") (sampleAnalysed "2") ∧
    ¬ (sampleAnalysed "1").Agrees (sampleAnalysed "2") fun _ => true := by
  have none : ∀ statistics, (sampleAnalysed statistics).tables = [] := fun _ => rfl
  have texts : ∀ statistics text, text ∈ (sampleAnalysed statistics).texts hashing →
      text = ((sampleAnalysed "1").documents hashing).flatMap Json.encode := by
    rintro statistics text (rfl | ⟨table, inside, -⟩)
    · rfl
    · rw [none] at inside
      cases inside
  have blobs : ∀ statistics bytes, bytes ∉ (sampleAnalysed statistics).blobs := by
    rintro statistics bytes ⟨table, inside, -⟩
    rw [none] at inside
    cases inside
  refine ⟨⟨fun text member other member' _ => ?_, fun bytes member => ?_⟩, fun agrees => ?_⟩
  · rw [member.elim (texts _ _) (texts _ _), member'.elim (texts _ _) (texts _ _)]
  · exact absurd member fun either => either.elim (blobs _ _) (blobs _ _)
  · have rows := agrees.rows "sqlite_stat1" ⟨_, mem_cons_self, rfl, rfl⟩ rfl
    have same := singleton_perm_singleton.mp rows
    exact absurd same (by decide)

/-- Two databases with different rows in a table have the same digest, although nothing that is
hashed for it collides. -/
theorem statistics_not_hashed : ¬ ∀ (hashing : Hashing) (first second : Store),
    Store.Separates hashing first second →
      (first.logicalDigest hashing = second.logicalDigest hashing ↔
        first.Agrees second fun _ => true) := by
  intro hashed
  obtain ⟨separate, differ⟩ := sampleAnalysed_separates sampleToolkit.hashing
  exact differ ((hashed _ _ _ separate).mp rfl)

end DispatcherSdk.Snapshots
