import Labbook.Attribute.Constructor
import Labbook.Proofs.Table
import Mathlib.Data.List.Basic
import Mathlib.Data.Prod.Basic

namespace Labbook

namespace Source.Statement

def body : Statement → List Statement
  | block body | functionDef _ body | classDef _ _ _ _ body => body
  | assignment _ | other => []

def IsDefinition : Statement → Prop
  | classDef .. | functionDef .. => True
  | assignment _ | other | block _ => False

-- The statement at a place below another one: at each level the number of the statement to enter.
def at? (s : Statement) : List Nat → Option Statement
  | [] => some s
  | i :: place => s.body[i]?.bind fun child => child.at? place

-- No definition stands strictly between a statement and a place below it.
structure IsVisible (node : Statement) (place : List Nat) (s : Statement) : Prop where
  below : place ≠ []
  found : node.at? place = some s
  uncovered : ∀ between, between <+: place → between ≠ [] → between ≠ place →
    ∀ outer, node.at? between = some outer → ¬outer.IsDefinition

def Shows (node : Statement) (place : List Nat) (s : Statement) : Prop :=
  place = [] ∧ node = s ∨ ¬node.IsDefinition ∧ node.IsVisible place s

variable {node s : Statement} {place : List Nat} {i : Nat}

theorem at?_cons : node.at? (i :: place) = some s ↔
    ∃ child, node.body[i]? = some child ∧ child.at? place = some s := by
  rw [at?, Option.bind_eq_some_iff]

theorem isVisible_cons : node.IsVisible (i :: place) s ↔
    ∃ child, node.body[i]? = some child ∧ child.Shows place s := by
  constructor
  · intro visible
    obtain ⟨child, entered, found⟩ := at?_cons.mp visible.found
    refine ⟨child, entered, ?_⟩
    by_cases here : place = []
    · subst here
      exact .inl ⟨rfl, Option.some.inj found⟩
    · have apart : [i] ≠ i :: place := fun same => here (List.cons.inj same).2.symm
      have first : ¬child.IsDefinition := visible.uncovered [i] (List.prefix_append [i] place)
        (List.cons_ne_nil i []) apart child (at?_cons.mpr ⟨child, entered, rfl⟩)
      refine .inr ⟨first, here, found, fun between within nonempty differs outer reached => ?_⟩
      exact visible.uncovered (i :: between) (List.cons_prefix_cons.mpr ⟨rfl, within⟩)
        (List.cons_ne_nil i between) (fun same => differs (List.cons.inj same).2) outer
        (at?_cons.mpr ⟨child, entered, reached⟩)
  · rintro ⟨child, entered, ⟨rfl, rfl⟩ | ⟨first, visible⟩⟩
    · refine ⟨List.cons_ne_nil i [], at?_cons.mpr ⟨child, entered, rfl⟩, ?_⟩
      intro between within nonempty differs
      rcases List.prefix_cons_iff.mp within with empty | ⟨later, rfl, further⟩
      · exact absurd empty nonempty
      · exact absurd (congrArg _ (List.prefix_nil.mp further)) differs
    · refine ⟨List.cons_ne_nil i place, at?_cons.mpr ⟨child, entered, visible.found⟩, ?_⟩
      intro between within nonempty differs outer reached
      rcases List.prefix_cons_iff.mp within with empty | ⟨later, rfl, further⟩
      · exact absurd empty nonempty
      · obtain ⟨_, again, deeper⟩ := at?_cons.mp reached
        cases entered.symm.trans again
        by_cases here : later = []
        · subst here
          cases deeper
          exact first
        · exact visible.uncovered later further here (fun same => differs (congrArg _ same)) outer deeper

end Source.Statement

open Source Source.Statement

abbrev Spot := List Nat × Statement

-- A list of the statements that stand at certain places, each place listed once.
def Placed (stands : List Nat → Statement → Prop) (listed : List Statement) : Prop :=
  ∃ spots : List Spot, spots.map Prod.snd = listed ∧ (spots.map Prod.fst).Nodup ∧
    ∀ place s, (place, s) ∈ spots ↔ stands place s

section
variable {stands others : List Nat → Statement → Prop} {listed before after : List Statement}

theorem placed_none (absent : ∀ place s, ¬stands place s) : Placed stands [] :=
  ⟨[], rfl, List.nodup_nil, fun place s => iff_of_false List.not_mem_nil (absent place s)⟩

theorem placed_one {s : Statement} (one : ∀ place t, stands place t ↔ place = [] ∧ s = t) :
    Placed stands [s] := by
  refine ⟨[([], s)], rfl, List.nodup_singleton _, fun place t => ?_⟩
  rw [List.mem_singleton, one, Prod.mk.injEq, eq_comm (a := t)]

theorem Placed.congr (placed : Placed stands listed)
    (same : ∀ place s, stands place s ↔ others place s) : Placed others listed := by
  obtain ⟨spots, all, once, each⟩ := placed
  exact ⟨spots, all, once, fun place s => (each place s).trans (same place s)⟩

theorem Placed.moved {move : List Nat → List Nat} (placed : Placed stands listed)
    (injective : move.Injective) :
    Placed (fun place s => ∃ origin, stands origin s ∧ move origin = place) listed := by
  obtain ⟨spots, rfl, once, each⟩ := placed
  refine ⟨spots.map (Prod.map move id), ?_, ?_, fun place s => ?_⟩
  · rw [List.map_map]
    rfl
  · have moved := once.map injective
    rw [List.map_map] at moved ⊢
    exact moved
  · rw [List.mem_map]
    constructor
    · rintro ⟨⟨origin, t⟩, member, same⟩
      cases same
      exact ⟨origin, (each origin t).mp member, rfl⟩
    · rintro ⟨origin, found, rfl⟩
      exact ⟨(origin, s), (each origin s).mpr found, rfl⟩

theorem Placed.append (front : Placed stands before) (back : Placed others after)
    (apart : ∀ place s t, stands place s → ¬others place t) :
    Placed (fun place s => stands place s ∨ others place s) (before ++ after) := by
  obtain ⟨spots, rfl, once, each⟩ := front
  obtain ⟨more, rfl, onceMore, eachOther⟩ := back
  refine ⟨spots ++ more, List.map_append, ?_, fun place s => ?_⟩
  · rw [List.map_append]
    refine List.nodup_append.mpr ⟨once, onceMore, ?_⟩
    rintro place inFront another inBack rfl
    obtain ⟨⟨_, s⟩, member, rfl⟩ := List.mem_map.mp inFront
    obtain ⟨⟨_, t⟩, present, rfl⟩ := List.mem_map.mp inBack
    exact apart _ s t ((each _ s).mp member) ((eachOther _ t).mp present)
  · rw [List.mem_append, each, eachOther]

theorem Placed.filterMap_eq_singleton {β : Type} {keep : Statement → Option β} {b : β}
    (placed : Placed stands listed) : listed.filterMap keep = [b] ↔
      ∃ place s, stands place s ∧ keep s = some b ∧
        ∀ another t, stands another t → (keep t).isSome → another = place := by
  obtain ⟨spots, rfl, once, each⟩ := placed
  rw [List.filterMap_map, List.filterMap_eq_cons_iff]
  constructor
  · rintro ⟨front, ⟨place, s⟩, back, rfl, passed, kept, empty⟩
    refine ⟨place, s, (each place s).mp (List.mem_append_right _ List.mem_cons_self), kept, ?_⟩
    intro another t found keeps
    rw [Option.isSome_iff_ne_none] at keeps
    rcases List.mem_append.mp ((each another t).mpr found) with earlier | member
    · exact absurd (passed (another, t) earlier) keeps
    · rcases List.mem_cons.mp member with same | later
      · exact congrArg Prod.fst same
      · exact absurd (List.filterMap_eq_nil_iff.mp empty (another, t) later) keeps
  · rintro ⟨place, s, found, kept, only⟩
    obtain ⟨front, back, rfl⟩ := List.append_of_mem ((each place s).mpr found)
    rw [List.map_append, List.map_cons, List.nodup_middle, List.nodup_cons, ← List.map_append] at once
    have passed : ∀ m ∈ front ++ back, keep m.2 = none := by
      rintro ⟨another, t⟩ member
      have present : (another, t) ∈ front ++ (place, s) :: back :=
        List.mem_append.mpr ((List.mem_append.mp member).imp_right (List.mem_cons_of_mem _))
      by_contra keeps
      have same := only another t ((each another t).mp present) (Option.isSome_iff_ne_none.mpr keeps)
      exact once.1 (List.mem_map.mpr ⟨(another, t), member, same⟩)
    exact ⟨front, (place, s), back, rfl, fun m member => passed m (List.mem_append_left _ member), kept,
      List.filterMap_eq_nil_iff.mpr fun m member => passed m (List.mem_append_right _ member)⟩

end

section
variable {node s : Statement} {place : List Nat} {name className : String} {module : List Statement}

theorem not_isVisible_of_empty (empty : node.body = []) : ¬node.IsVisible place s := by
  intro visible
  cases place with
  | nil => exact visible.below rfl
  | cons i place =>
    obtain ⟨child, entered, -⟩ := isVisible_cons.mp visible
    rw [empty] at entered
    cases entered

theorem isVisible_block : (block node.body).IsVisible place s ↔ node.IsVisible place s := by
  cases place with
  | nil => exact iff_of_false (fun visible => visible.below rfl) fun visible => visible.below rfl
  | cons i place => rw [isVisible_cons, isVisible_cons]; rfl

theorem modifyHead_succ_injective : Function.Injective (List.modifyHead (· + 1) : List Nat → List Nat) := by
  intro place another same
  cases place with
  | nil =>
    cases another with
    | nil => rfl
    | cons => cases same
  | cons i place =>
    cases another with
    | nil => cases same
    | cons j another =>
      cases same
      rfl

-- What is visible among statements is visible from above the first one, or among the others, which stand
-- one further behind it.
theorem isVisible_block_cons {rest : List Statement} {t : Statement} :
    (block (s :: rest)).IsVisible place t ↔ (∃ below, s.Shows below t ∧ 0 :: below = place) ∨
      ∃ behind, (block rest).IsVisible behind t ∧ behind.modifyHead (· + 1) = place := by
  constructor
  · intro visible
    cases place with
    | nil => exact absurd rfl visible.below
    | cons i place =>
      obtain ⟨child, entered, shown⟩ := isVisible_cons.mp visible
      cases i with
      | zero =>
        cases entered
        exact .inl ⟨place, shown, rfl⟩
      | succ i => exact .inr ⟨i :: place, isVisible_cons.mpr ⟨child, entered, shown⟩, rfl⟩
  · rintro (⟨below, shown, rfl⟩ | ⟨behind, visible, rfl⟩)
    · exact isVisible_cons.mpr ⟨s, rfl, shown⟩
    · cases behind with
      | nil => exact absurd rfl visible.below
      | cons i behind =>
        obtain ⟨child, entered, shown⟩ := isVisible_cons.mp visible
        exact isVisible_cons.mpr ⟨child, entered, shown⟩

theorem placed_definition (defines : node.IsDefinition) :
    Placed (fun place t => node.Shows place t ∧ t.IsDefinition) [node] := by
  refine placed_one fun place t => ?_
  constructor
  · rintro ⟨here | ⟨uncovered, -⟩, -⟩
    · exact here
    · exact absurd defines uncovered
  · rintro ⟨rfl, rfl⟩
    exact ⟨.inl ⟨rfl, rfl⟩, defines⟩

theorem placed_plain (empty : node.body = []) (plain : ¬node.IsDefinition) :
    Placed (fun place t => node.Shows place t ∧ t.IsDefinition) [] := by
  refine placed_none fun place t => ?_
  rintro ⟨⟨-, rfl⟩ | ⟨-, visible⟩, defines⟩
  · exact plain defines
  · exact not_isVisible_of_empty empty visible

-- The listing of visible definitions is complete and has each of them once for every place.
theorem visible_placed (statements : List Statement) :
    Placed (fun place t => (block statements).IsVisible place t ∧ t.IsDefinition)
      (visible statements) := by
  refine visible.induct
    (fun s => Placed (fun place t => s.Shows place t ∧ t.IsDefinition) (visibleIn s))
    (fun statements => Placed (fun place t => (block statements).IsVisible place t ∧ t.IsDefinition)
      (visible statements)) ?block ?classDef ?functionDef ?assignment ?other ?nil ?cons statements
  case block =>
    rintro body ⟨spots, all, once, each⟩
    refine ⟨spots, all, once, fun place t => (each place t).trans ?_⟩
    constructor
    · rintro ⟨visible, defines⟩
      exact ⟨.inr ⟨id, visible⟩, defines⟩
    · rintro ⟨⟨-, rfl⟩ | ⟨-, visible⟩, defines⟩
      · exact defines.elim
      · exact ⟨visible, defines⟩
  case classDef => exact fun _ _ _ _ _ => placed_definition trivial
  case functionDef => exact fun _ _ => placed_definition trivial
  case assignment => exact fun _ => placed_plain rfl id
  case other => exact placed_plain rfl id
  case nil => exact placed_none fun place t shown => not_isVisible_of_empty rfl shown.1
  case cons =>
    intro s rest front back
    have entered := front.moved (List.cons_injective (a := 0))
    have shifted := back.moved modifyHead_succ_injective
    rw [visible]
    refine (entered.append shifted ?_).congr fun place t => ?_
    · rintro _ _ _ ⟨below, -, rfl⟩ ⟨behind, ⟨shown, -⟩, same⟩
      cases behind with
      | nil => exact shown.below rfl
      | cons => cases same
    · rw [isVisible_block_cons]
      constructor
      · rintro (⟨below, ⟨shown, defines⟩, same⟩ | ⟨behind, ⟨shown, defines⟩, same⟩)
        · exact ⟨.inl ⟨below, shown, same⟩, defines⟩
        · exact ⟨.inr ⟨behind, shown, same⟩, defines⟩
      · rintro ⟨⟨below, shown, same⟩ | ⟨behind, shown, same⟩, defines⟩
        · exact .inl ⟨below, ⟨shown, defines⟩, same⟩
        · exact .inr ⟨behind, ⟨shown, defines⟩, same⟩

def IsClass (name : String) (s : Statement) : Prop :=
  ∃ bases column text body, s = .classDef name bases column text body

def IsFunction (name : String) (s : Statement) : Prop := ∃ body, s = .functionDef name body

def IsOnly (kind : Statement → Prop) (node s : Statement) : Prop :=
  ∃ place, node.IsVisible place s ∧ kind s ∧
    ∀ another t, node.IsVisible another t → kind t → another = place

-- The one constructor that is visible in the one class of a name.
def IsConstructor (className : String) (module : List Statement) (init : Statement) : Prop :=
  ∃ cls, IsOnly (IsClass className) (.block module) cls ∧ IsOnly (IsFunction constructorName) cls init

def classBody? (name : String) : Statement → Option (List Statement)
  | .classDef n _ _ _ body => if n = name then some body else none
  | _ => none

def functionBody? (name : String) : Statement → Option (List Statement)
  | .functionDef n body => if n = name then some body else none
  | _ => none

theorem classBody?_eq_some {body : List Statement} :
    classBody? name s = some body ↔ IsClass name s ∧ s.body = body := by
  unfold classBody? IsClass
  cases s <;> simp [Statement.body, eq_comm]

theorem functionBody?_eq_some {body : List Statement} :
    functionBody? name s = some body ↔ IsFunction name s ∧ s.body = body := by
  unfold functionBody? IsFunction
  cases s <;> simp [Statement.body, eq_comm]

-- A search among the visible definitions that keeps those of a kind finds a single one when there is only
-- one.
theorem filterMap_visible {kind : Statement → Prop} {keep : Statement → Option (List Statement)}
    (keeps : ∀ s body, keep s = some body ↔ kind s ∧ s.body = body)
    (defines : ∀ s, kind s → s.IsDefinition) {body : List Statement} :
    (visible node.body).filterMap keep = [body] ↔ ∃ s, IsOnly kind node s ∧ s.body = body := by
  have isSome : ∀ t, (keep t).isSome ↔ kind t := fun t => by
    rw [Option.isSome_iff_exists]
    exact ⟨fun ⟨body, kept⟩ => ((keeps t body).mp kept).1, fun is => ⟨_, (keeps t _).mpr ⟨is, rfl⟩⟩⟩
  rw [(visible_placed node.body).filterMap_eq_singleton]
  constructor
  · rintro ⟨place, s, ⟨found, -⟩, kept, only⟩
    obtain ⟨is, same⟩ := (keeps s body).mp kept
    refine ⟨s, ⟨place, isVisible_block.mp found, is, fun another t visible isKind => ?_⟩, same⟩
    exact only another t ⟨isVisible_block.mpr visible, defines t isKind⟩ ((isSome t).mpr isKind)
  · rintro ⟨s, ⟨place, found, is, only⟩, same⟩
    refine ⟨place, s, ⟨isVisible_block.mpr found, defines s is⟩, (keeps s body).mpr ⟨is, same⟩, ?_⟩
    rintro another t ⟨visible, -⟩ kept
    exact only another t (isVisible_block.mp visible) ((isSome t).mp kept)

theorem classesNamed_eq_singleton {body : List Statement} :
    classesNamed name node.body = [body] ↔ ∃ cls, IsOnly (IsClass name) node cls ∧ cls.body = body := by
  change (visible node.body).filterMap (classBody? name) = [body] ↔ _
  refine filterMap_visible (fun _ _ => classBody?_eq_some) ?_
  rintro _ ⟨_, _, _, _, rfl⟩
  trivial

theorem functionsNamed_eq_singleton {body : List Statement} :
    functionsNamed name node.body = [body] ↔
      ∃ function, IsOnly (IsFunction name) node function ∧ function.body = body := by
  change (visible node.body).filterMap (functionBody? name) = [body] ↔ _
  refine filterMap_visible (fun _ _ => functionBody?_eq_some) ?_
  rintro _ ⟨_, rfl⟩
  trivial

theorem constructorBody?_eq_some {body : List Statement} :
    constructorBody? className module = some body ↔
      ∃ init, IsConstructor className module init ∧ init.body = body := by
  have searched : constructorBody? className module = some body ↔ ∃ inside,
      classesNamed className module = [inside] ∧ functionsNamed constructorName inside = [body] := by
    unfold constructorBody?
    split
    next inside single =>
      split
      next found => simp [single, found]
      next several => simpa [single] using several body
    next several =>
      refine iff_of_false nofun ?_
      rintro ⟨inside, one, -⟩
      exact several inside one
  rw [searched]
  constructor
  · rintro ⟨inside, one, found⟩
    obtain ⟨cls, onlyClass, rfl⟩ := (@classesNamed_eq_singleton (.block module) _ _).mp one
    obtain ⟨init, onlyInit, same⟩ := functionsNamed_eq_singleton.mp found
    exact ⟨init, ⟨cls, onlyClass, onlyInit⟩, same⟩
  · rintro ⟨init, ⟨cls, onlyClass, onlyInit⟩, same⟩
    exact ⟨cls.body, (@classesNamed_eq_singleton (.block module) _ _).mpr ⟨cls, onlyClass, rfl⟩,
      functionsNamed_eq_singleton.mpr ⟨init, onlyInit, same⟩⟩

end

-- The text at the end of the right-hand side. An assignment that only declares its target has none, nor has
-- a chain that ends in one.
inductive EndsIn : Assignment → String → Prop where
  | assigned {target : Target} {text : String} : EndsIn (.assigned target text) text
  | chained {target : Target} {rest : Assignment} {text : String} (further : EndsIn rest text) :
      EndsIn (.chained target rest) text

def Assigns (s : Statement) (attr text : String) : Prop :=
  ∃ a value, s = .assignment a ∧ a.target = .selfAttribute attr ∧ EndsIn a value ∧
    text = normalizeBlanks value

def LastAssigns (body : List Statement) (attr text : String) : Prop :=
  ∃ before s after, body = before ++ s :: after ∧ Assigns s attr text ∧
    ∀ later ∈ after, ∀ value, ¬Assigns later attr value

section
variable {a : Assignment} {s : Statement} {body : List Statement} {attr text : String}

theorem value?_eq_some : a.value? = some text ↔ EndsIn a text := by
  constructor
  · intro ends
    induction a with
    | declared target => cases ends
    | assigned target value =>
      cases ends
      exact .assigned
    | chained target rest ih => exact .chained (ih ends)
  · intro ends
    induction ends with
    | assigned => rfl
    | chained _ ih => exact ih

theorem selfAssignment?_eq_some : selfAssignment? s = some (attr, text) ↔ Assigns s attr text := by
  unfold Assigns selfAssignment?
  cases s with
  | assignment a =>
    simp only [← value?_eq_some, assignment.injEq]
    cases target : a.target <;> cases value : a.value? <;> simp [target, value, eq_comm]
  | _ => simp

theorem assignedAttributes_eq (body : List Statement) : assignedAttributes body =
    body.foldl (fun found s => Table.insertAll found (selfAssignment? s).toList) [] := by
  unfold assignedAttributes Table.insertAll
  rw [List.foldl_filterMap]
  congr 1
  funext found s
  cases selfAssignment? s <;> rfl

theorem find?_assignment : Table.find? (selfAssignment? s).toList attr = some text ↔ Assigns s attr text := by
  rw [← selfAssignment?_eq_some]
  cases selfAssignment? s with
  | none => exact iff_of_false nofun nofun
  | some entry =>
    obtain ⟨name, value⟩ := entry
    rw [Option.toList_some, Table.find?_cons, Option.some_inj, Prod.mk.injEq]
    by_cases same : attr = name
    · simp [same]
    · simp [same, Table.find?, eq_comm]

theorem find?_assignedAttributes :
    (assignedAttributes body).find? attr = some text ↔ LastAssigns body attr text := by
  have single : ∀ s ∈ body, Table.Single (selfAssignment? s).toList := by
    intro s _
    cases selfAssignment? s with
    | none => exact Table.single_nil
    | some entry => exact List.nodup_singleton entry.1
  have unassigned : ∀ s, Table.find? (selfAssignment? s).toList attr = none ↔
      ∀ value, ¬Assigns s attr value := fun s => by
    rw [Option.eq_none_iff_forall_ne_some]
    exact forall_congr' fun value => not_congr find?_assignment
  have blank : Table.find? ([] : Table String) attr = none := rfl
  rw [assignedAttributes_eq, Table.find?_foldl_insertAll body _ single [] attr, blank, Option.or_none,
    List.findSome?_eq_some_iff]
  constructor
  · rintro ⟨after, s, before, split, found, passed⟩
    refine ⟨before.reverse, s, after.reverse, ?_, find?_assignment.mp found, fun later member => ?_⟩
    · rw [List.reverse_eq_iff.mp split, List.reverse_append, List.reverse_cons, List.append_assoc]
      rfl
    · exact (unassigned later).mp (passed later (List.mem_reverse.mp member))
  · rintro ⟨before, s, after, rfl, assigns, passed⟩
    refine ⟨after.reverse, s, before.reverse, ?_, find?_assignment.mpr assigns, fun later member => ?_⟩
    · rw [List.reverse_append, List.reverse_cons, List.append_assoc]
      rfl
    · exact (unassigned later).mpr (passed later (List.mem_reverse.mp member))

end

-- A class and its constructor decide together. With one visible class of the name and one visible constructor
-- in it, the attributes are those that the statements of the constructor's own body assign, statements
-- inside these left out; in every other case there are none.
theorem find?_constructorAttributesOf (className : String) (module : List Statement) :
    (constructorAttributesOf className module).Single ∧
      (∀ attr text, (constructorAttributesOf className module).find? attr = some text ↔
        ∃ init, IsConstructor className module init ∧ LastAssigns init.body attr text) ∧
      ((¬∃ init, IsConstructor className module init) → constructorAttributesOf className module = []) := by
  have searched := fun body => @constructorBody?_eq_some className module body
  unfold constructorAttributesOf
  cases found : constructorBody? className module with
  | some body =>
    obtain ⟨init, constructor, rfl⟩ := (searched body).mp found
    refine ⟨Table.Single.insertAll Table.single_nil _, fun attr text => ?_,
      fun missing => absurd ⟨init, constructor⟩ missing⟩
    rw [find?_assignedAttributes]
    constructor
    · exact fun last => ⟨init, constructor, last⟩
    · rintro ⟨another, again, last⟩
      have same := found.symm.trans ((searched another.body).mpr ⟨another, again, rfl⟩)
      rwa [Option.some.inj same]
  | none =>
    have missing : ¬∃ init, IsConstructor className module init := by
      rintro ⟨init, constructor⟩
      have body := (searched init.body).mpr ⟨init, constructor, rfl⟩
      rw [found] at body
      cases body
    refine ⟨Table.single_nil, fun attr text => iff_of_false nofun ?_, fun _ => rfl⟩
    rintro ⟨init, constructor, -⟩
    exact missing ⟨init, constructor⟩

end Labbook
