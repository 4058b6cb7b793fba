import Labbook.Files.Tree
import Labbook.Proofs.Files.PathBelow

namespace Labbook

namespace Place
variable {p q : Place} {names more : List String}

-- Where names lead to from a place, whatever lies on the way.
def follow (p : Place) (names : List String) : Place :=
  names.foldl (fun p name => if name = ".." then p.parent else p.child name) p

def Under (root p : Place) : Prop :=
  p.fromRoot = root.fromRoot ∧ p.above = root.above ∧ root.names <+: p.names

instance (root p : Place) : Decidable (root.Under p) := inferInstanceAs (Decidable (_ ∧ _ ∧ _))

theorem follow_append (p : Place) (names more : List String) :
    p.follow (names ++ more) = (p.follow names).follow more := List.foldl_append

theorem follow_cons (p : Place) (name : String) (names : List String) :
    p.follow (name :: names) = (p.follow [name]).follow names := rfl

theorem Under.refl (p : Place) : p.Under p := ⟨rfl, rfl, List.prefix_refl _⟩

theorem under_follow (down : ".." ∉ names) (below : p.Under q) : p.Under (q.follow names) := by
  induction names generalizing q with
  | nil => exact below
  | cons name rest ih =>
    obtain ⟨first, later⟩ := not_or.mp (mt List.mem_cons.mpr down)
    obtain ⟨fromRoot, above, start⟩ := below
    have step : q.follow [name] = q.child name := if_neg (Ne.symm first)
    rw [follow_cons, step]
    exact ih later ⟨fromRoot, above, start.trans (List.prefix_append _ _)⟩

end Place

namespace FileTree
variable {t u v : FileTree} {p q : Place} {names : List String}

theorem entry?_put_other (e : FileEntry) (apart : q ≠ p) : entry? (t.put p e) q = t.entry? q := by
  have other : ([(p, e)].find? fun entry => decide (entry.1 = q)) = none := by
    simp [Ne.symm apart]
  unfold put entry?
  split
  · rfl
  · dsimp only
    rw [List.find?_append, other, Option.or_none, List.find?_filter]
    congr 2
    funext entry
    by_cases same : entry.1 = q
    · simp [same, apart]
    · simp [same]

theorem entry?_put_self (e : FileEntry) (named : p.names ≠ []) : entry? (t.put p e) p = some e := by
  have replaced : (t.entries.filter fun entry => decide (entry.1 ≠ p)).find?
      (fun entry => decide (entry.1 = p)) = none := by
    simp
  unfold put entry?
  rw [if_neg (by simpa using named)]
  dsimp only
  rw [List.find?_append, replaced]
  simp

theorem names_of_missing (missing : t.entry? p = none) : p.names ≠ [] := by
  intro empty
  unfold entry? at missing
  rw [if_pos (by simp [empty])] at missing
  cases missing

theorem step_eq {component : String} (found : t.step p component = some q) :
    q = p.follow [component] := by
  unfold step at found
  split at found
  · cases found
  · unfold Place.follow
    simp only [List.foldl_cons, List.foldl_nil]
    split at found
    next up => rw [if_pos up]; exact (Option.some.inj found).symm
    next down => rw [if_neg down]; exact (Option.some.inj found).symm

theorem foldlM_step_eq (found : names.foldlM t.step p = some q) : q = p.follow names := by
  induction names generalizing p with
  | nil => exact (Option.some.inj found).symm
  | cons name rest ih =>
    rw [List.foldlM_cons] at found
    obtain ⟨next, first, later⟩ := Option.bind_eq_some_iff.mp found
    rw [Place.follow_cons, ← step_eq first]
    exact ih later

def placeOf (path : String) : Place := (start path).follow (Path.components path)

theorem locate_eq {path : String} (found : t.locate path = some p) : p = placeOf path := by
  unfold locate at found
  split at found
  · cases found
  · exact foldlM_step_eq found

-- The directory `q` was missing from the first tree and was made on the way along `names` from `p`.
structure Made (p : Place) (names : List String) (t u : FileTree) (q : Place) : Prop where
  missing : t.entry? q = none
  made : u.entry? q = some .directory
  onWay : ∃ front, front <+: names ∧ q = p.follow front

-- Between two trees there is no difference but for directories made on the way along `names`.
def MadeAlong (p : Place) (names : List String) (t u : FileTree) : Prop :=
  ∀ q, u.entry? q = t.entry? q ∨ Made p names t u q

-- What is made from the next place on is made on the way from this one.
theorem Made.earlier {name : String} (later : Made (p.follow [name]) names t u q) :
    Made p (name :: names) t u q := by
  obtain ⟨missing, made, front, part, same⟩ := later
  exact ⟨missing, made, name :: front, List.prefix_cons_inj _ |>.mpr part, same⟩

theorem MadeAlong.first {name : String} (missing : t.entry? (p.follow [name]) = none)
    (later : MadeAlong (p.follow [name]) names (t.put (p.follow [name]) .directory) u) :
    MadeAlong p (name :: names) t u := by
  have fresh := @entry?_put_self t (p.follow [name]) .directory (names_of_missing missing)
  intro q
  by_cases here : q = p.follow [name]
  · subst here
    refine .inr ⟨missing, ?_, [name], List.prefix_append [name] names, rfl⟩
    rcases later (p.follow [name]) with kept | made
    · exact kept.trans fresh
    · exact made.made
  · have other := @entry?_put_other t (p.follow [name]) q .directory here
    rcases later q with kept | ⟨missing, made, onWay⟩
    · exact .inl (kept.trans other)
    · exact .inr (Made.earlier ⟨other.symm.trans missing, made, onWay⟩)

theorem makeDirectories_along (t : FileTree) (p : Place) (names : List String) :
    MadeAlong p names t (t.makeDirectories p names).1 := by
  induction names generalizing t p with
  | nil => exact fun _ => .inl rfl
  | cons name rest ih =>
    unfold makeDirectories
    cases stepped : t.step p name with
    | none => exact fun _ => .inl rfl
    | some next =>
      obtain rfl := step_eq stepped
      dsimp only
      cases found : t.entry? (p.follow [name]) with
      | none => exact .first found (ih _ _)
      | some e =>
        cases e with
        | file text => exact fun _ => .inl rfl
        | directory => exact fun q => (ih t (p.follow [name]) q).imp_right Made.earlier

-- Outside of the directory that a path names there is no difference but for directories that lead to it.
def Within (root : String) (t u : FileTree) : Prop :=
  ∀ q, ¬(placeOf root).Under q → u.entry? q = t.entry? q ∨
    Made (start root) (Path.components root) t u q

theorem Within.refl (root : String) (t : FileTree) : Within root t t :=
  fun _ _ => .inl rfl

theorem Within.trans {root : String} (first : Within root t u) (second : Within root u v) :
    Within root t v := by
  intro q outside
  rcases second q outside with kept | ⟨missing, made, onWay⟩
  · rcases first q outside with same | ⟨missing, made, onWay⟩
    · exact .inl (kept.trans same)
    · exact .inr ⟨missing, kept.trans made, onWay⟩
  · rcases first q outside with same | ⟨-, present, -⟩
    · exact .inr ⟨same.symm.trans missing, made, onWay⟩
    · rw [present] at missing
      cases missing

section
variable {root path : String}

theorem start_eq (below : Path.Below root path) : start path = start root :=
  congrArg (fun fromRoot => ({ fromRoot } : Place)) below.1

theorem under_placeOf (below : Path.Below root path) : (placeOf root).Under (placeOf path) := by
  obtain ⟨names, -, down, parts⟩ := below.2
  unfold placeOf
  rw [start_eq below, parts, Place.follow_append]
  exact Place.under_follow down (Place.Under.refl _)

theorem MadeAlong.within (below : Path.Below root path)
    (along : MadeAlong (start path) (Path.components path) t u) : Within root t u := by
  obtain ⟨names, -, down, parts⟩ := below.2
  rw [start_eq below, parts] at along
  intro q outside
  rcases along q with kept | ⟨missing, made, front, part, same⟩
  · exact .inl kept
  · refine .inr ⟨missing, made, ?_⟩
    rcases List.prefix_or_prefix_of_prefix part (List.prefix_append _ names) with early | ⟨rest, whole⟩
    · exact ⟨front, early, same⟩
    · rw [← whole, List.prefix_append_right_inj] at part
      rw [← whole, Place.follow_append] at same
      have under := Place.under_follow (mt (part.subset ·) down) (Place.Under.refl (placeOf root))
      exact absurd (same ▸ under) outside

theorem withFile_within {text : Thunk (Option String)} (below : Path.Below root path)
    (done : t.withFile path text = some u) : Within root t u := by
  obtain ⟨p, located, done⟩ := Option.bind_eq_some_iff.mp done
  split at done
  · cases done
  · obtain rfl := locate_eq located
    cases done
    intro q outside
    have apart : q ≠ placeOf path := by
      rintro rfl
      exact outside (under_placeOf below)
    exact .inl (entry?_put_other _ apart)

end

end FileTree

namespace FileChange
variable {α β : Type} {related : FileTree → FileTree → Prop} {given : α → Prop}

-- A change leads from every tree to a related one, also where it fails, and gives what it should if it
-- gives anything.
def Does (change : FileChange α) (related : FileTree → FileTree → Prop) (given : α → Prop) : Prop :=
  ∀ t, related t (change.run.run t).2 ∧ ∀ a, (change.run.run t).1 = .ok a → given a

theorem Does.pure (refl : ∀ t, related t t) {a : α} (holds : given a) :
    Does (Pure.pure a) related given := by
  intro t
  refine ⟨refl t, ?_⟩
  intro b same
  cases same
  exact holds

theorem Does.outcome (refl : ∀ t, related t t) {result : Outcome α}
    (holds : ∀ a, result = .ok a → given a) :
    Does (ExceptT.mk (Pure.pure result)) related given :=
  fun t => ⟨refl t, holds⟩

-- The second step goes on from the tree that the first one left, unless that failed.
theorem run_bind (change : FileChange α) (next : α → FileChange β) (t : FileTree) :
    (change >>= next).run.run t = match (change.run.run t).1 with
      | .ok a => (next a).run.run (change.run.run t).2
      | .error e => (.error e, (change.run.run t).2) := by
  change (StateT.bind (ExceptT.run change) (ExceptT.bindCont next)) t = _
  unfold StateT.bind
  change ExceptT.bindCont next (change.run.run t).1 (change.run.run t).2 = _
  cases (change.run.run t).1 with
  | ok a => rfl
  | error e => rfl

theorem Does.bind {change : FileChange α} {next : α → FileChange β} {last : β → Prop}
    (trans : ∀ t u v, related t u → related u v → related t v) (first : change.Does related given)
    (second : ∀ a, given a → (next a).Does related last) : (change >>= next).Does related last := by
  intro t
  obtain ⟨step, result⟩ := first t
  rw [run_bind]
  cases outcome : (change.run.run t).1 with
  | error e =>
    refine ⟨step, ?_⟩
    intro b failed
    cases failed
  | ok a =>
    obtain ⟨more, done⟩ := second a (result a outcome) (change.run.run t).2
    exact ⟨trans _ _ _ step more, done⟩

theorem Does.mono {change : FileChange α} {wider : α → Prop} (does : change.Does related given)
    (weaken : ∀ a, given a → wider a) : change.Does related wider :=
  fun t => ⟨(does t).1, fun a result => weaken a ((does t).2 a result)⟩

theorem Does.mapM {items : List α} {change : α → FileChange β} {each : β → Prop}
    (refl : ∀ t, related t t) (trans : ∀ t u v, related t u → related u v → related t v)
    (step : ∀ a ∈ items, (change a).Does related each) :
    (items.mapM change).Does related fun results => ∀ b ∈ results, each b := by
  induction items with
  | nil => exact .pure refl nofun
  | cons a rest ih =>
    rw [List.mapM_cons]
    refine .bind trans (step a List.mem_cons_self) fun b holds => ?_
    refine .bind trans (ih fun a later => step a (List.mem_cons_of_mem _ later)) fun more hold => ?_
    apply Does.pure refl
    intro c member
    rcases List.mem_cons.mp member with rfl | behind
    · exact holds
    · exact hold c behind

theorem run_get (next : FileTree → FileChange α) (t : FileTree) :
    (get >>= next).run.run t = (next t).run.run t := rfl

-- Also where it fails, all that it does to the tree is to make directories on the way.
theorem createDirectories_does (path : String)
    (along : ∀ t u, t.MadeAlong (FileTree.start path) (Path.components path) u → related t u) :
    (createDirectories path).Does related fun _ => True := by
  intro t
  refine ⟨?_, fun _ _ => trivial⟩
  apply along
  have made := t.makeDirectories_along (FileTree.start path) (Path.components path)
  unfold createDirectories
  cases FileTree.isPath path with
  | false => exact fun _ => .inl rfl
  | true =>
    dsimp only [Bool.not_true]
    rw [if_neg (show ¬(!true) = true from Bool.false_ne_true), run_get]
    cases result : t.makeDirectories (FileTree.start path) (Path.components path) with
    | mk u whole =>
      rw [result] at made
      cases whole with
      | false => exact made
      | true => exact made

theorem writePicture_does (path : String) (text : Thunk (Option String))
    (refl : ∀ t, related t t) (written : ∀ t u, t.withFile path text = some u → related t u) :
    (writePicture path text).Does related fun _ => True := by
  intro t
  refine ⟨?_, fun _ _ => trivial⟩
  unfold writePicture
  rw [run_get]
  cases done : t.withFile path text with
  | none => exact refl t
  | some u => exact written t u done

end FileChange

end Labbook
