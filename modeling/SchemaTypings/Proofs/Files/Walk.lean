import SchemaTypings.Proofs.Files.Entries

/-!
# Ways through a file tree

Where the segments of a path lead, said entry by entry: a way stays, goes up, goes down into an entry or
takes a link to its target, and it ends at a node or at a name that is free. `FileTree.follow` finds the
ways that there are.

* `Leads.of_follow`, `Leads.follow`: ways and the function.
* `Leads.arrives`: a way stays open while a tree grows, and a free name is arrived at when something
  stands there.
* `Leads.split`, `Leads.extend`: the beginning of a way arrives at a directory, where idle segments may
  follow.
-/

namespace SchemaTypings.FileTree

open FileNode (entryAt_eq_directory entryAt_concat entries? entry)

/-- A segment that may be the name of an entry. -/
def IsName (segment : String) : Prop :=
  Path.isIdle segment = false ∧ segment ≠ ".." ∧ segment.utf8ByteSize ≤ nameLimit

/-- Where the target of a link is looked for that stands in a directory. -/
def linkStart (directory : Location) (target : String) : Location :=
  if Path.isAbsolute target then [] else directory

/-- The segments lead from a place to an end, through at most so many links. -/
inductive Leads (root : FileNode) (purpose : Purpose) :
    Nat → Location → List String → Target → Prop
  | done (links : Nat) (place : Location) : Leads root purpose links place [] (.node place)
  | stay {links : Nat} {place : Location} {segment : String} {rest : List String} {goal : Target}
      (hplace : root.entryAt place = some .directory) (hsegment : Path.isIdle segment = true)
      (h : Leads root purpose links place rest goal) :
      Leads root purpose links place (segment :: rest) goal
  | up {links : Nat} {place : Location} {rest : List String} {goal : Target}
      (hplace : root.entryAt place = some .directory)
      (h : Leads root purpose links place.dropLast rest goal) :
      Leads root purpose links place (".." :: rest) goal
  | down {links : Nat} {place : Location} {name : String} {rest : List String} {goal : Target}
      {e : FileEntry} (hplace : root.entryAt place = some .directory) (hname : IsName name)
      (hentry : root.entryAt (place ++ [name]) = some e) (he : ∀ target, e ≠ .link target)
      (h : Leads root purpose links (place ++ [name]) rest goal) :
      Leads root purpose links place (name :: rest) goal
  | free {links : Nat} {place : Location} {name : String}
      (hplace : root.entryAt place = some .directory) (hname : IsName name)
      (hentry : root.entryAt (place ++ [name]) = none) :
      Leads root purpose links place [name] (.free place name)
  | occupied {links : Nat} {place : Location} {name target : String}
      (hplace : root.entryAt place = some .directory) (hname : IsName name)
      (hentry : root.entryAt (place ++ [name]) = some (.link target))
      (hpurpose : purpose = .makeDirectory) :
      Leads root purpose links place [name] (.node (place ++ [name]))
  | link {links : Nat} {place : Location} {name target : String} {rest : List String}
      {goal : Target} (hplace : root.entryAt place = some .directory) (hname : IsName name)
      (hentry : root.entryAt (place ++ [name]) = some (.link target))
      (hpurpose : rest = [] → purpose ≠ .makeDirectory)
      (h : Leads root purpose links (linkStart place target) (Path.segments target ++ rest) goal) :
      Leads root purpose (links + 1) place (name :: rest) goal

/-- The place of a node or a free name. -/
def Target.place : Target → Location
  | node location => location
  | free directory name => directory ++ [name]

/-- Whoever looks for the target can arrive there in the tree: a link was not taken for the node, and the
free name belongs to something by now that is no link. -/
def Target.Open (root : FileNode) (purpose : Purpose) : Target → Prop
  | node _ => purpose ≠ .makeDirectory
  | free directory name =>
    ∃ e, root.entryAt (directory ++ [name]) = some e ∧ ∀ target, e ≠ .link target

variable {root root' : FileNode} {purpose : Purpose} {links : Nat} {place : Location}
  {segment name : String} {rest segments : List String} {goal : Target}

/-! ## One segment -/

theorem follow_nil : follow root purpose links place [] = .ok (.node place) := by
  rw [follow, descend]

theorem follow_stay (hplace : root.entryAt place = some .directory)
    (hsegment : Path.isIdle segment = true) :
    follow root purpose links place (segment :: rest) =
      follow root purpose links place rest := by
  obtain ⟨entries, hentries⟩ := entryAt_eq_directory.mp hplace
  rw [follow, descend, hentries, follow]
  dsimp only
  rw [if_pos hsegment]

theorem follow_up (hplace : root.entryAt place = some .directory) :
    follow root purpose links place (".." :: rest) =
      follow root purpose links place.dropLast rest := by
  obtain ⟨entries, hentries⟩ := entryAt_eq_directory.mp hplace
  rw [follow, descend, hentries, follow]
  rfl

/-- What an entry does with a way that comes to it by its name. -/
def followEntry (root : FileNode) (purpose : Purpose) (links : Nat) (place : Location)
    (name : String) (rest : List String) : Option FileEntry → Except FileFault Target
  | none => if rest = [] then .ok (.free place name) else .error .notFound
  | some (.link target) =>
    if rest = [] ∧ purpose = .makeDirectory then .ok (.node (place ++ [name]))
    else match links with
      | 0 => .error .tooManyLinks
      | links + 1 =>
        follow root purpose links (linkStart place target) (Path.segments target ++ rest)
  | some _ => follow root purpose links (place ++ [name]) rest

theorem follow_segment (hplace : root.entryAt place = some .directory)
    (hidle : Path.isIdle segment = false) (hup : segment ≠ "..") :
    follow root purpose links place (segment :: rest) =
      if (purpose == .write && !rest.isEmpty && rest.all (· == "")) = true then
        .error .isDirectory
      else if nameLimit < segment.utf8ByteSize then .error .nameTooLong
      else followEntry root purpose links place segment rest
        (root.entryAt (place ++ [segment])) := by
  obtain ⟨entries, hentries⟩ := entryAt_eq_directory.mp hplace
  rw [follow, descend, hentries, entryAt_concat hentries]
  dsimp only
  rw [hidle, if_neg Bool.false_ne_true, if_neg (by simpa using hup)]
  by_cases htrail : (purpose == .write && !rest.isEmpty && rest.all (· == "")) = true
  · rw [if_pos htrail, if_pos htrail]
  rw [if_neg htrail, if_neg htrail]
  by_cases hlong : nameLimit < segment.utf8ByteSize
  · rw [if_pos hlong, if_pos hlong]
  rw [if_neg hlong, if_neg hlong]
  cases Fields.find? segment entries with
  | none => cases rest <;> rfl
  | some node =>
    cases node with
    | file => exact (follow.eq_def ..).symm
    | directory => exact (follow.eq_def ..).symm
    | link target =>
      dsimp only [Option.map_some, entry, followEntry]
      by_cases hend : rest = [] ∧ purpose = .makeDirectory
      · obtain ⟨rfl, rfl⟩ := hend
        rfl
      · rw [if_neg hend, if_neg (by simpa using hend)]
        cases links <;> rfl

theorem follow_blocked (hplace : root.entryAt place ≠ some .directory) :
    follow root purpose links place (segment :: rest) = .error .notDirectory := by
  have hentries : (root.find? place).bind entries? = none := by
    refine Option.eq_none_iff_forall_ne_some.mpr fun entries h => ?_
    exact hplace (entryAt_eq_directory.mpr ⟨entries, h⟩)
  rw [follow, descend, hentries]

/-! ## Ways and the function -/

namespace Leads

/-- What is found is where the segments lead. -/
theorem of_follow {links : Nat} {place : Location} {segments : List String}
    (h : follow root purpose links place segments = .ok goal) :
    Leads root purpose links place segments goal := by
  match segments with
  | [] =>
    rw [follow_nil] at h
    cases h
    exact .done links place
  | segment :: rest =>
    by_cases hplace : root.entryAt place = some .directory
    case neg =>
      rw [follow_blocked hplace] at h
      cases h
    by_cases hidle : Path.isIdle segment = true
    · rw [follow_stay hplace hidle] at h
      exact .stay hplace hidle (of_follow h)
    by_cases hup : segment = ".."
    · subst hup
      rw [follow_up hplace] at h
      exact .up hplace (of_follow h)
    have hidle := Bool.eq_false_iff.mpr hidle
    rw [follow_segment hplace hidle hup] at h
    split at h
    next => cases h
    split at h
    next => cases h
    next hlength =>
      have hname : IsName segment := ⟨hidle, hup, Nat.le_of_not_lt hlength⟩
      cases hentry : root.entryAt (place ++ [segment]) with
      | none =>
        rw [hentry, followEntry] at h
        split at h
        next hrest =>
          cases hrest
          cases h
          exact .free hplace hname hentry
        next => cases h
      | some e =>
        rw [hentry] at h
        cases e with
        | file => exact .down hplace hname hentry nofun (of_follow h)
        | directory => exact .down hplace hname hentry nofun (of_follow h)
        | link target =>
          dsimp only [followEntry] at h
          split at h
          next hend =>
            obtain ⟨rfl, hpurpose⟩ := hend
            cases h
            exact .occupied hplace hname hentry hpurpose
          next hend =>
            cases links with
            | zero => cases h
            | succ links =>
              exact .link hplace hname hentry (fun hrest hpurpose => hend ⟨hrest, hpurpose⟩)
                (of_follow h)
termination_by (links, segments.length)

/-- Where the segments lead is found. -/
theorem follow (h : Leads root purpose links place segments goal) (hpurpose : purpose ≠ .write) :
    follow root purpose links place segments = .ok goal := by
  have hnamed {links : Nat} {place : Location} {name : String} {rest : List String}
      (hplace : root.entryAt place = some .directory) (hname : IsName name) :
      FileTree.follow root purpose links place (name :: rest) =
        followEntry root purpose links place name rest (root.entryAt (place ++ [name])) := by
    rw [follow_segment hplace hname.1 hname.2.1, if_neg (by simp [hpurpose]),
      if_neg (Nat.not_lt.mpr hname.2.2)]
  induction h with
  | done => exact follow_nil
  | stay hplace hsegment _ ih => rw [follow_stay hplace hsegment, ih]
  | up hplace _ ih => rw [follow_up hplace, ih]
  | @down _ _ _ _ _ e hplace hname hentry he _ ih =>
    rw [hnamed hplace hname, hentry]
    cases e with
    | file => exact ih
    | directory => exact ih
    | link target => exact absurd rfl (he target)
  | free hplace hname hentry => rw [hnamed hplace hname, hentry, followEntry, if_pos rfl]
  | occupied hplace hname hentry hend =>
    rw [hnamed hplace hname, hentry]
    exact if_pos ⟨rfl, hend⟩
  | link hplace hname hentry hon _ ih =>
    rw [hnamed hplace hname, hentry]
    exact (if_neg fun hend => hon hend.1 hend.2).trans ih

/-! ## Growing trees -/

/-- A way stays open while the tree grows, and it arrives where it led to. -/
theorem arrives (hgrows : root.Grows root') (hgoal : goal.Open root' purpose)
    (h : Leads root purpose links place segments goal) :
    Leads root' .find links place segments (.node goal.place) := by
  induction h with
  | done => exact .done _ _
  | stay hplace hsegment _ ih => exact .stay (hgrows.directory hplace) hsegment (ih hgoal)
  | up hplace _ ih => exact .up (hgrows.directory hplace) (ih hgoal)
  | @down _ _ _ _ _ e hplace hname hentry he _ ih =>
    obtain ⟨e', hentry', hstays⟩ := hgrows _ _ hentry
    refine .down (hgrows.directory hplace) hname hentry' (fun target h => ?_) (ih hgoal)
    subst h
    cases hstays
    exact he target rfl
  | free hplace hname =>
    obtain ⟨e, hentry, he⟩ := hgoal
    exact .down (hgrows.directory hplace) hname hentry he (.done _ _)
  | occupied _ _ _ hpurpose => exact absurd hpurpose hgoal
  | link hplace hname hentry _ _ ih =>
    exact .link (hgrows.directory hplace) hname (hgrows.link hentry) (fun _ => nofun) (ih hgoal)

/-- A place for a directory is taken where a node is found. -/
theorem taken {found : Location} (h : Leads root .find links place segments (.node found)) :
    ∃ occupied, Leads root .makeDirectory links place segments (.node occupied) := by
  generalize hgoal : Target.node found = goal at h
  induction h with
  | done => exact ⟨_, .done _ _⟩
  | stay hplace hsegment _ ih =>
    obtain ⟨occupied, hway⟩ := ih hgoal
    exact ⟨occupied, .stay hplace hsegment hway⟩
  | up hplace _ ih =>
    obtain ⟨occupied, hway⟩ := ih hgoal
    exact ⟨occupied, .up hplace hway⟩
  | down hplace hname hentry he _ ih =>
    obtain ⟨occupied, hway⟩ := ih hgoal
    exact ⟨occupied, .down hplace hname hentry he hway⟩
  | free => cases hgoal
  | occupied _ _ _ hpurpose => cases hpurpose
  | @link _ _ _ _ rest _ hplace hname hentry _ _ ih =>
    cases rest with
    | nil => exact ⟨_, .occupied hplace hname hentry rfl⟩
    | cons =>
      obtain ⟨occupied, hway⟩ := ih hgoal
      exact ⟨occupied, .link hplace hname hentry (fun h => nomatch h) hway⟩

/-! ## Parts of a way -/

/-- Idle segments stay in the directory that the segments before them lead to. -/
theorem extend {found : Location} (hfound : root.entryAt found = some .directory)
    {idle : List String} (hidle : ∀ segment ∈ idle, Path.isIdle segment = true)
    (h : Leads root .find links place segments (.node found)) :
    Leads root .find links place (segments ++ idle) (.node found) := by
  generalize hgoal : Target.node found = goal at h ⊢
  induction h with
  | done links place =>
    cases hgoal
    rw [List.nil_append]
    induction idle with
    | nil => exact .done _ _
    | cons segment idle ih =>
      exact .stay hfound (hidle _ List.mem_cons_self)
        (ih fun s hs => hidle s (List.mem_cons_of_mem _ hs))
  | stay hplace hsegment _ ih => exact .stay hplace hsegment (ih hgoal)
  | up hplace _ ih => exact .up hplace (ih hgoal)
  | down hplace hname hentry he _ ih => exact .down hplace hname hentry he (ih hgoal)
  | free => cases hgoal
  | occupied _ _ _ hpurpose => cases hpurpose
  | link hplace hname hentry _ _ ih =>
    refine .link hplace hname hentry (fun _ => nofun) ?_
    show Leads root .find _ _ (_ ++ (_ ++ idle)) _
    rw [← List.append_assoc]
    exact ih hgoal

/-- The beginning of a way to a node arrives at a directory. -/
theorem split {front back : List String} {found : Location} (hback : back ≠ [])
    (h : Leads root .find links place (front ++ back) (.node found)) :
    ∃ between, root.entryAt between = some .directory ∧
      Leads root .find links place front (.node between) := by
  generalize hall : front ++ back = segments at h
  generalize hgoal : Target.node found = goal at h
  induction h generalizing front with
  | done => exact absurd (List.append_eq_nil_iff.mp hall).2 hback
  | stay hplace hsegment _ ih =>
    cases front with
    | nil => exact ⟨_, hplace, .done _ _⟩
    | cons first front =>
      obtain ⟨rfl, htail⟩ := List.cons.inj hall
      obtain ⟨between, hbetween, hway⟩ := ih htail hgoal
      exact ⟨between, hbetween, .stay hplace hsegment hway⟩
  | up hplace _ ih =>
    cases front with
    | nil => exact ⟨_, hplace, .done _ _⟩
    | cons first front =>
      obtain ⟨rfl, htail⟩ := List.cons.inj hall
      obtain ⟨between, hbetween, hway⟩ := ih htail hgoal
      exact ⟨between, hbetween, .up hplace hway⟩
  | down hplace hname hentry he _ ih =>
    cases front with
    | nil => exact ⟨_, hplace, .done _ _⟩
    | cons first front =>
      obtain ⟨rfl, htail⟩ := List.cons.inj hall
      obtain ⟨between, hbetween, hway⟩ := ih htail hgoal
      exact ⟨between, hbetween, .down hplace hname hentry he hway⟩
  | free => cases hgoal
  | occupied _ _ _ hpurpose => cases hpurpose
  | link hplace hname hentry _ _ ih =>
    cases front with
    | nil => exact ⟨_, hplace, .done _ _⟩
    | cons first front =>
      obtain ⟨rfl, rfl⟩ := List.cons.inj hall
      obtain ⟨between, hbetween, hway⟩ := ih (List.append_assoc _ _ _) hgoal
      exact ⟨between, hbetween, .link hplace hname hentry (fun _ => nofun) hway⟩

end Leads

end SchemaTypings.FileTree
