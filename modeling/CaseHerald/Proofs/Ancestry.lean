import CaseHerald.Proofs.Buckets
import CaseHerald.Proofs.Handled
import CaseHerald.Rehearsal.World

/-!
# Placing a case in the resource tree

The resource tree comes from outside and may be of any shape: folders may lie in a cycle, or in one
another without end, or be missing. A case is placed by a walk upwards from its project which looks up at
most ten folders. `Climbs` is the walk as the tree has it, folder by folder, without a bound; `Walk`
says how the ten end it: at the top, below another folder, or at a folder that is not told. One of the
three is always the case, and each decides what the program asks for and comes to (`ancestry_exact`).
-/
namespace CaseHerald.Watch

variable {σ : Type} {h : Proc.Handler interface σ} {s t u v : σ}

/-! ## Lookups -/

theorem handled_find {l : Lookup} {reply : Except HierarchyFailure l.Answer}
    (hl : h (.find l) s = (reply, t)) : Handled h (find l).run s [⟨.find l, reply⟩] reply t :=
  (Handled.request hl).ask_id

/-! ## The walk -/

/-- Folders that lie in one another, from a parent upwards, and the parent of the last of them. -/
inductive Climbs (h : Proc.Handler interface σ) :
    σ → Option ParentRef → List String → Option ParentRef → σ → Prop
  | stay {s : σ} {parent : Option ParentRef} : Climbs h s parent [] parent s
  | up {s t u : σ} {id : String} {ids : List String} {folder : Folder} {last : Option ParentRef}
      (told : h (.find (.folder id)) s = (.ok folder, t))
      (rest : Climbs h t (ParentRef.read? folder.parent) ids last u) :
      Climbs h s (some (.folder id)) (id :: ids) last u

/-- The organisation at the top. -/
def organizationOf : Option ParentRef → Option String
  | some (.organization id) => some id
  | _ => none

/-- Whether the walk can go on. -/
def IsFolder (parent : Option ParentRef) : Prop := ∃ id, parent = some (.folder id)

/-- How a walk within some levels ends, with what it looks up and what it comes to. -/
inductive Walk (h : Proc.Handler interface σ) (project : String) (levels : Nat) (s : σ)
    (parent : Option ParentRef) :
    List String → Except HierarchyFailure (Option String × List String) → Prop
  /-- at the top -/
  | top {ids : List String} {last : Option ParentRef} {t : σ} (climbs : Climbs h s parent ids last t)
      (within : ids.length ≤ levels) (ends : ¬IsFolder last) :
      Walk h project levels s parent ids (.ok (organizationOf last, ids))
  /-- below one folder too many -/
  | deep {ids : List String} {id : String} {t : σ}
      (climbs : Climbs h s parent ids (some (.folder id)) t) (full : ids.length = levels) :
      Walk h project levels s parent ids (.error (.tooDeep project mostFolders))
  /-- at a folder that is not told -/
  | lost {ids : List String} {id : String} {t u : σ} {e : HierarchyFailure}
      (climbs : Climbs h s parent ids (some (.folder id)) t) (within : ids.length < levels)
      (fails : h (.find (.folder id)) t = (.error e, u)) :
      Walk h project levels s parent (ids ++ [id]) (.error e)

namespace Walk

variable {project : String} {levels : Nat} {parent : Option ParentRef} {ids : List String}
  {result : Except HierarchyFailure (Option String × List String)}

/-- What a walk comes to with one more folder below it. -/
def below (id : String) : Except HierarchyFailure (Option String × List String) →
    Except HierarchyFailure (Option String × List String)
  | .ok (organization, folders) => .ok (organization, id :: folders)
  | .error e => .error e

theorem up {id : String} {folder : Folder} (told : h (.find (.folder id)) s = (.ok folder, t))
    (rest : Walk h project levels t (ParentRef.read? folder.parent) ids result) :
    Walk h project (levels + 1) s (some (.folder id)) (id :: ids) (below id result) := by
  cases rest with
  | top climbs within ends => exact .top (.up told climbs) (Nat.succ_le_succ within) ends
  | deep climbs full => exact .deep (.up told climbs) (congrArg (· + 1) full)
  | lost climbs within fails => exact .lost (.up told climbs) (Nat.succ_lt_succ within) fails

/-- **Every walk ends** in one of the three ways. -/
theorem exists_walk (h : Proc.Handler interface σ) (project : String) (levels : Nat) (s : σ)
    (parent : Option ParentRef) : ∃ ids result, Walk h project levels s parent ids result := by
  induction levels generalizing s parent with
  | zero =>
    by_cases hfolder : IsFolder parent
    · obtain ⟨id, rfl⟩ := hfolder
      exact ⟨_, _, .deep .stay rfl⟩
    · exact ⟨_, _, .top .stay (Nat.le_refl 0) hfolder⟩
  | succ levels ih =>
    by_cases hfolder : IsFolder parent
    · obtain ⟨id, rfl⟩ := hfolder
      cases htold : h (.find (.folder id)) s with
      | mk reply t =>
        cases reply with
        | error e => exact ⟨_, _, .lost .stay (Nat.succ_pos levels) htold⟩
        | ok folder =>
          obtain ⟨ids, result, hwalk⟩ := ih t (ParentRef.read? folder.parent)
          exact ⟨_, _, hwalk.up htold⟩
    · exact ⟨_, _, .top .stay (Nat.zero_le _) hfolder⟩

theorem length_le (hw : Walk h project levels s parent ids result) : ids.length ≤ levels := by
  cases hw with
  | top _ within => exact within
  | deep _ full => exact Nat.le_of_eq full
  | lost _ within =>
    rw [List.length_append]
    exact within

end Walk

/-- The program looks up the folders, and nothing else, and comes to the result. -/
def Walks (h : Proc.Handler interface σ) (project : String) (levels : Nat) (s : σ)
    (parent : Option ParentRef) (ids : List String)
    (result : Except HierarchyFailure (Option String × List String)) : Prop :=
  ∃ log u, Handled h (climb project levels parent).run s log result u ∧
    log.map Exchange.request = ids.map fun id => .find (.folder id)

namespace Walks

variable {project : String} {levels : Nat} {ids : List String}
  {result : Except HierarchyFailure (Option String × List String)}

theorem stop {last : Option ParentRef} (ends : ¬IsFolder last) :
    Walks h project levels s last [] (.ok (organizationOf last, [])) := by
  refine ⟨[], s, ?_, rfl⟩
  rcases last with _ | id | id
  · rw [climb]
    exact .done h _ s
  · rw [climb]
    exact .done h _ s
  · exact absurd ⟨id, rfl⟩ ends

theorem up {id : String} {folder : Folder} (told : h (.find (.folder id)) s = (.ok folder, t))
    (rest : Walks h project levels t (ParentRef.read? folder.parent) ids result) :
    Walks h project (levels + 1) s (some (.folder id)) (id :: ids) (Walk.below id result) := by
  obtain ⟨log, u, hrest, hlog⟩ := rest
  refine ⟨⟨.find (.folder id), .ok folder⟩ :: log, u, Handled.bind_ok (handled_find told) ?_, ?_⟩
  · cases result with
    | ok r => exact hrest.bind_ok_done rfl
    | error e => exact hrest.bind_error
  · rw [List.map_cons, List.map_cons, hlog]

end Walks

/-- **The program takes the walk that there is.** -/
theorem Walk.walks {project : String} {levels : Nat} {parent : Option ParentRef} {ids : List String}
    {result : Except HierarchyFailure (Option String × List String)}
    (hw : Walk h project levels s parent ids result) : Walks h project levels s parent ids result := by
  induction levels generalizing s parent ids result with
  | zero =>
    cases hw with
    | top climbs within ends =>
      cases List.eq_nil_of_length_eq_zero (Nat.le_zero.1 within)
      cases climbs
      exact .stop ends
    | deep climbs full =>
      cases List.eq_nil_of_length_eq_zero full
      cases climbs
      exact ⟨[], s, .done h _ s, rfl⟩
    | lost _ within => exact absurd within (Nat.not_lt_zero _)
  | succ levels ih =>
    cases hw with
    | top climbs within ends =>
      cases climbs with
      | stay => exact .stop ends
      | up told rest => exact .up told (ih (.top rest (Nat.le_of_succ_le_succ within) ends))
    | deep climbs full =>
      cases climbs with
      | stay => cases full
      | up told rest => exact .up told (ih (.deep rest (Nat.succ.inj full)))
    | lost climbs within fails =>
      cases climbs with
      | stay => exact ⟨_, _, (handled_find fails).bind_error, rfl⟩
      | up told rest => exact .up told (ih (.lost rest (Nat.lt_of_succ_lt_succ within) fails))

/-! ## The project -/

/-- The path of a case's parent, with what is looked up for it. -/
inductive Begins (h : Proc.Handler interface σ) (r : CaseRecord) (s : σ) :
    List Lookup → String → σ → Prop
  | recorded (known : r.parent ≠ "") : Begins h r s [] r.parent s
  | told {parent : String} {t : σ} (unknown : r.parent = "")
      (told : h (.find (.parent r.number)) s = (.ok parent, t)) :
      Begins h r s [.parent r.number] parent t

/-- The id under which the project of a case is looked up, and the project, with all lookups so far. -/
inductive Locates (h : Proc.Handler interface σ) (r : CaseRecord) (s : σ) :
    List Lookup → String → Project → σ → Prop
  | intro {front : List Lookup} {parent id : String} {p : Project} {t u : σ}
      (begins : Begins h r s front parent t) (names : projectOfParent? parent = some id)
      (told : h (.find (.project id)) t = (.ok p, u)) :
      Locates h r s (front ++ [.project id]) id p u

/-- The name of a project without its collection. -/
def bareName (p : Project) : String :=
  match afterFront? "projects/".toList p.name.toList with
  | some rest => String.ofList rest
  | none => p.name

/-- Each id is there once, in order, unless it is empty. -/
structure DrawnFrom (ids sources : List String) : Prop where
  nonempty : ∀ id ∈ ids, id ≠ ""
  nodup : ids.Nodup
  sublist : ids.Sublist sources
  all : ∀ id ∈ sources, id ≠ "" → id ∈ ids

theorem distinctIds_drawnFrom (sources : List String) : DrawnFrom (distinctIds sources) sources := by
  have hsublist : (distinctIds sources).Sublist (sources.filter fun id => !id.isEmpty) :=
    sublist_firstOfEach id _
  refine ⟨fun id hid => ?_, ?_, hsublist.trans List.filter_sublist, fun id hid hne => ?_⟩
  · simpa using (List.mem_filter.1 (hsublist.subset hid)).2
  · refine (pairwise_firstOfEach id _).imp fun {a b} hlt heq => ?_
    subst heq
    exact Nat.lt_irrefl _ hlt
  · have hmem : id ∈ sources.filter fun id => !id.isEmpty := List.mem_filter.2 ⟨hid, by simpa using hne⟩
    have hkept : id ∈ (distinctIds sources).map fun id => id :=
      mem_map_firstOfEach.2 (List.mem_map.2 ⟨id, hmem, rfl⟩)
    rwa [List.map_id'] at hkept

/-- What placing a case comes to by its walk. -/
def placement (project : List String) : Except HierarchyFailure (Option String × List String) →
    Except HierarchyFailure Ancestry
  | .ok (organization, folders) => .ok { organization, folders, project }
  | .error e => .error e

theorem Begins.handled {r : CaseRecord} {front : List Lookup} {parent : String}
    (hb : Begins h r s front parent t) :
    ∃ log, Handled h (parentPath r).run s log (.ok parent) t ∧
      log.map Exchange.request = front.map .find := by
  cases hb with
  | recorded known =>
    have hpath : parentPath r = pure r.parent := if_neg (by simpa using known)
    rw [hpath]
    exact ⟨[], .done h _ s, rfl⟩
  | told unknown told =>
    have hpath : parentPath r = find (.parent r.number) := if_pos (by simpa using unknown)
    rw [hpath]
    exact ⟨_, handled_find told, rfl⟩

/-- **What the program comes to where the project is told**, by the walk that there is. -/
theorem Locates.handled {r : CaseRecord} {front : List Lookup} {id : String} {p : Project}
    {ids : List String} {result : Except HierarchyFailure (Option String × List String)}
    (hl : Locates h r s front id p t)
    (hw : Walk h p.name mostFolders t (ParentRef.read? p.parent) ids result) :
    ∃ log u, Handled h (ancestry r).outcome s log (placement (projectIds id p) result) u ∧
      log.map Exchange.request = (front ++ ids.map Lookup.folder).map Request.find := by
  obtain ⟨begins, names, told⟩ := hl
  obtain ⟨before, hbefore, hfront⟩ := begins.handled
  obtain ⟨walked, u, hwalked, hids⟩ := hw.walks
  refine ⟨before ++ (⟨.find (.project id), .ok p⟩ :: walked), u, ?_, ?_⟩
  · refine hbefore.bind_ok ?_
    simp only [names]
    refine Handled.bind_ok (handled_find told) ?_
    cases result with
    | ok r => exact hwalked.bind_ok_done rfl
    | error e => exact hwalked.bind_error
  · rw [List.map_append, List.map_cons, hfront, hids]
    simp

/-! ## The law -/

/-- There is an eleventh folder above. -/
def IsDeep (h : Proc.Handler interface σ) (s : σ) (parent : Option ParentRef) : Prop :=
  ∃ folders last t, Climbs h s parent folders last t ∧ folders.length = 10 ∧ IsFolder last

/-- One of the first ten folders is not told. -/
def IsLost (h : Proc.Handler interface σ) (s : σ) (parent : Option ParentRef) (e : HierarchyFailure) :
    Prop :=
  ∃ folders id t u, Climbs h s parent folders (some (.folder id)) t ∧ folders.length < 10 ∧
    h (.find (.folder id)) t = (.error e, u)

/-- How a case whose project is told is placed in a tree. -/
structure PlacedExactly (h : Proc.Handler interface σ) (r : CaseRecord) (s : σ) (front : List Lookup)
    (id : String) (p : Project) (t : σ) : Prop where
  /-- the program ends, and looks up at most ten folders after the project -/
  bounded : ∃ result, ∃ folders : List String,
    ((ancestry r).outcome.run h s).1 = .ok result ∧ folders.length ≤ 10 ∧
    (transcript h (ancestry r).outcome s).map Exchange.request =
      (front ++ folders.map Lookup.folder).map Request.find
  /-- it answers the folders up to the top, if there are at most ten -/
  ok_iff : ∀ place, ((ancestry r).outcome.run h s).1 = .ok (.ok place) ↔
    ∃ folders last u, Climbs h t (ParentRef.read? p.parent) folders last u ∧ folders.length ≤ 10 ∧
      ¬IsFolder last ∧ place = ⟨organizationOf last, folders, projectIds id p⟩
  /-- it fails below an eleventh folder, or as the first lookup of a folder that does -/
  error_iff : ∀ e, ((ancestry r).outcome.run h s).1 = .ok (.error e) ↔
    (e = .tooDeep p.name 10 ∧ IsDeep h t (ParentRef.read? p.parent)) ∨
      IsLost h t (ParentRef.read? p.parent) e
  /-- if no lookup of a folder fails as too deep, only an eleventh folder is -/
  tooDeep_iff : (∀ f u v resource levels,
      h (.find (.folder f)) u ≠ (.error (.tooDeep resource levels), v)) →
    ((∃ resource levels, ((ancestry r).outcome.run h s).1 = .ok (.error (.tooDeep resource levels))) ↔
      IsDeep h t (ParentRef.read? p.parent))
  /-- the ids of the project are those by which it is known -/
  ids : DrawnFrom (projectIds id p) [id, bareName p, p.projectId]

namespace Locates

variable {r : CaseRecord} {front : List Lookup} {id : String} {p : Project}

theorem run_eq {folders : List String} {result : Except HierarchyFailure (Option String × List String)}
    (hl : Locates h r s front id p t)
    (hw : Walk h p.name mostFolders t (ParentRef.read? p.parent) folders result) :
    ((ancestry r).outcome.run h s).1 = .ok (placement (projectIds id p) result) := by
  obtain ⟨log, u, hrun, -⟩ := hl.handled hw
  rw [hrun.run]

theorem ok_iff (hl : Locates h r s front id p t) (place : Ancestry) :
    ((ancestry r).outcome.run h s).1 = .ok (.ok place) ↔
      ∃ folders last u, Climbs h t (ParentRef.read? p.parent) folders last u ∧ folders.length ≤ 10 ∧
        ¬IsFolder last ∧ place = ⟨organizationOf last, folders, projectIds id p⟩ := by
  constructor
  · intro hok
    obtain ⟨folders, result, hwalk⟩ :=
      Walk.exists_walk h p.name mostFolders t (ParentRef.read? p.parent)
    rw [hl.run_eq hwalk] at hok
    cases hwalk with
    | top climbs within ends =>
      cases hok
      exact ⟨_, _, _, climbs, within, ends, rfl⟩
    | deep | lost => cases hok
  · rintro ⟨folders, last, u, climbs, within, ends, rfl⟩
    exact hl.run_eq (.top climbs within ends)

theorem error_iff (hl : Locates h r s front id p t) (e : HierarchyFailure) :
    ((ancestry r).outcome.run h s).1 = .ok (.error e) ↔
      (e = .tooDeep p.name 10 ∧ IsDeep h t (ParentRef.read? p.parent)) ∨
        IsLost h t (ParentRef.read? p.parent) e := by
  constructor
  · intro hfailed
    obtain ⟨folders, result, hwalk⟩ :=
      Walk.exists_walk h p.name mostFolders t (ParentRef.read? p.parent)
    rw [hl.run_eq hwalk] at hfailed
    cases hwalk with
    | top => cases hfailed
    | deep climbs full =>
      cases hfailed
      exact .inl ⟨rfl, _, _, _, climbs, full, _, rfl⟩
    | lost climbs within fails =>
      cases hfailed
      exact .inr ⟨_, _, _, _, climbs, within, fails⟩
  · rintro (⟨rfl, folders, last, u, climbs, full, f, rfl⟩ | ⟨folders, f, u, v, climbs, within, fails⟩)
    · exact hl.run_eq (.deep climbs full)
    · exact hl.run_eq (.lost climbs within fails)

end Locates

/-- **A case is placed exactly**, whatever the resource tree is like. -/
theorem ancestry_exact {r : CaseRecord} {front : List Lookup} {id : String} {p : Project}
    (hl : Locates h r s front id p t) : PlacedExactly h r s front id p t := by
  refine ⟨?_, hl.ok_iff, hl.error_iff, fun honest => ⟨?_, fun hdeep => ?_⟩, distinctIds_drawnFrom _⟩
  · obtain ⟨folders, result, hwalk⟩ :=
      Walk.exists_walk h p.name mostFolders t (ParentRef.read? p.parent)
    obtain ⟨log, u, hrun, hlog⟩ := hl.handled hwalk
    exact ⟨_, folders, hl.run_eq hwalk, hwalk.length_le, by rw [hrun.log, hlog]⟩
  · rintro ⟨resource, levels, hfailed⟩
    rcases (hl.error_iff _).1 hfailed with ⟨-, hdeep⟩ | ⟨folders, f, u, v, -, -, fails⟩
    · exact hdeep
    · exact absurd fails (honest f u v resource levels)
  · exact ⟨p.name, 10, (hl.error_iff _).2 (.inl ⟨rfl, hdeep⟩)⟩

/-! ## Two folders in a cycle -/

open Rehearsal (World)

/-- A tree whose two folders lie in one another, with a project in the first. -/
def looped : World :=
  { World.new (.memory .empty) with
    tree := ⟨[("7", "projects/555")], [("555", ⟨⟨"projects/555", "p", "folders/1"⟩, true⟩)],
      [("1", ⟨"folders/1", "folders/2"⟩), ("2", ⟨"folders/2", "folders/1"⟩)]⟩ }

/-- A case whose record has no parent. -/
def lodged : CaseRecord := ⟨"7", "", "", .active, ⟨Fin.last 4⟩, false, .closingMark, []⟩

/-- The surroundings after a lookup. -/
def afterFind (l : Lookup) (s : World) : World := (World.handler "a" (.find l) s).2

/-- A tree that is given as data fails only where something is not found. -/
theorem found_ne_tooDeep {α : Type} (l : Lookup) (a : Option α) (resource : String) (levels : Nat) :
    Rehearsal.Tree.found l a ≠ .error (.tooDeep resource levels) := by
  cases a <;> nofun

theorem handler_ne_tooDeep {name : String} (f : String) (s t : World) (resource : String)
    (levels : Nat) :
    World.handler name (.find (.folder f)) s ≠ (.error (.tooDeep resource levels), t) :=
  fun h => found_ne_tooDeep _ _ resource levels (congrArg Prod.fst h)

theorem ancestry_exact_looped :
    Locates (World.handler "a") lodged looped [.parent "7", .project "555"] "555"
        ⟨"projects/555", "p", "folders/1"⟩ (afterFind (.project "555") (afterFind (.parent "7") looped)) ∧
      IsDeep (World.handler "a") (afterFind (.project "555") (afterFind (.parent "7") looped))
        (ParentRef.read? "folders/1") ∧
      DrawnFrom (projectIds "555" ⟨"projects/555", "p", "folders/1"⟩) ["555", "555", "p"] := by
  have hl : Locates (World.handler "a") lodged looped [.parent "7", .project "555"] "555"
      ⟨"projects/555", "p", "folders/1"⟩
      (afterFind (.project "555") (afterFind (.parent "7") looped)) :=
    .intro (.told rfl rfl) (by decide +kernel) rfl
  have hexact := ancestry_exact hl
  refine ⟨hl, ?_, hexact.ids⟩
  exact (hexact.tooDeep_iff handler_ne_tooDeep).1 ⟨"projects/555", 10, by decide +kernel⟩

end CaseHerald.Watch
