import Labbook.Attribute.Lookup
import Labbook.Proofs.Table
import Mathlib.Tactic.Common

namespace Labbook

def Member.shown (attr : String) : Member → DocValue
  | .value text => .value text
  | .method => .method attr

namespace Registry
variable {r : Registry} {owner attr name : String} {member : Member}

def Defines (r : Registry) (attr name : String) (member : Member) : Prop :=
  ∃ c, r.get? name = some c ∧ c.members.find? attr = some member

-- The first class in the order of the owner that defines an attribute has this member for it.
def FirstDefines (r : Registry) (owner attr : String) (member : Member) : Prop :=
  ∃ before name after, r.mro owner = before ++ name :: after ∧ r.Defines attr name member ∧
    ∀ earlier ∈ before, ∀ other, ¬ r.Defines attr earlier other

def Bare (r : Registry) (owner attr : String) : Prop :=
  ∀ name ∈ r.mro owner, ∀ member, ¬ r.Defines attr name member

theorem ownMember_eq_some {value : DocValue} :
    r.ownMember attr name = some value ↔
      ∃ member, r.Defines attr name member ∧ member.shown attr = value := by
  unfold ownMember Defines
  cases r.get? name with
  | none => simp
  | some c =>
    cases found : c.members.find? attr with
    | none => simp [found]
    | some member => cases member <;> simp [found, Member.shown]

theorem ownMember_eq_none :
    r.ownMember attr name = none ↔ ∀ member, ¬ r.Defines attr name member := by
  rw [Option.eq_none_iff_forall_ne_some]
  constructor
  · intro undefined member defines
    exact undefined _ (ownMember_eq_some.mpr ⟨member, defines, rfl⟩)
  · intro undefined value found
    obtain ⟨member, defines, -⟩ := ownMember_eq_some.mp found
    exact undefined member defines

theorem introspect_eq_some {value : DocValue} : r.introspect owner attr = some value ↔
    ∃ member, r.FirstDefines owner attr member ∧ member.shown attr = value := by
  unfold introspect
  rw [List.findSome?_eq_some_iff]
  simp only [ownMember_eq_some, ownMember_eq_none]
  constructor
  · rintro ⟨before, name, after, order, ⟨member, defines, shown⟩, undefined⟩
    exact ⟨member, ⟨before, name, after, order, defines, undefined⟩, shown⟩
  · rintro ⟨member, ⟨before, name, after, order, defines, undefined⟩, shown⟩
    exact ⟨before, name, after, order, ⟨member, defines, shown⟩, undefined⟩

theorem introspect_eq_none : r.introspect owner attr = none ↔ r.Bare owner attr := by
  unfold introspect Bare
  rw [List.findSome?_eq_none_iff]
  simp only [ownMember_eq_none]

end Registry

theorem assignedAttributes_single (body : List Source.Statement) : (assignedAttributes body).Single :=
  Table.Single.insertAll Table.single_nil _

theorem scanConstructor_single (source className : String) : (scanConstructor source className).Single := by
  unfold scanConstructor constructorAttributesOf
  split
  · exact assignedAttributes_single _
  · exact Table.single_nil

namespace Hook
variable {h : Hook} {scan : ConstructorScan} {q : Lookup}

-- What the first class of an order assigns to an attribute, of those that assign it at all.
def firstAssigned (h : Hook) (scan : ConstructorScan) (owner attr : String) : Option String :=
  (h.registry.mro owner).findSome? fun name => (h.assignmentsOf scan name).find? attr

theorem assignmentsOf_single (single : ∀ source name, (scan source name).Single) (name : String) :
    (h.assignmentsOf scan name).Single := by
  unfold assignmentsOf
  split
  · exact single _ _
  · exact Table.single_nil

-- The first class to assign an attribute is the last one to write it into the listing.
theorem find?_constructorAttributes (single : ∀ source name, (scan source name).Single)
    (owner attr : String) : (h.constructorAttributes scan owner).find? attr =
      if isPrivate attr then none else h.firstAssigned scan owner attr := by
  have merged := Table.find?_foldl_insertAll (h.registry.mro owner).reverse (h.assignmentsOf scan)
    (fun name _ => assignmentsOf_single single name) [] attr
  have kept := Table.find?_filter ((h.registry.mro owner).reverse.foldl
    (fun found name => found.insertAll (h.assignmentsOf scan name)) ([] : Table String))
    (fun name => !isPrivate name) attr
  rw [merged, List.reverse_reverse] at kept
  refine kept.trans ?_
  cases isPrivate attr with
  | true => rfl
  | false => exact Option.or_none

theorem ownAssignment_eq (attr name : String) : h.registry.ownAssignment scan attr name =
    ((h.assignmentsOf scan name).find? attr).map .placeholder := by
  unfold Registry.ownAssignment assignmentsOf
  cases h.registry.get? name with
  | none => rfl
  | some c => cases found : (scan c.source c.name).find? attr <;> simp [found]

theorem scanSources_eq (owner attr : String) : h.registry.scanSources scan owner attr =
    (h.firstAssigned scan owner attr).map .placeholder := by
  unfold Registry.scanSources firstAssigned
  rw [List.map_findSome?]
  exact congrArg (fun each => (h.registry.mro owner).findSome? each)
    (funext fun name => ownAssignment_eq attr name)

-- An instrument shows the public attributes of its listing.
def Lists (h : Hook) (scan : ConstructorScan) (q : Lookup) (text : String) : Prop :=
  h.registry.isSubclass q.owner h.base = true ∧ isPrivate q.attr = false ∧
    (h.constructorAttributes scan q.owner).find? q.attr = some text

-- What a lookup is answered with: each rule applies where those before it do not.
inductive Answers (h : Hook) (scan : ConstructorScan) (q : Lookup) : DocValue → Prop
  | member {m : Member} (first : h.registry.FirstDefines q.owner q.attr m) :
      Answers h scan q (m.shown q.attr)
  | placeholder {text : String} (bare : h.registry.Bare q.owner q.attr)
      (listed : h.Lists scan q text) : Answers h scan q (.placeholder text)
  | default {text : String} (bare : h.registry.Bare q.owner q.attr)
      (unlisted : ∀ other, ¬ h.Lists scan q other) (given : q.default = some text) :
      Answers h scan q (.default text)
  | missing (bare : h.registry.Bare q.owner q.attr) (unlisted : ∀ other, ¬ h.Lists scan q other)
      (undefaulted : q.default = none) : Answers h scan q .missing

theorem lists_iff (single : ∀ source name, (scan source name).Single) {text : String} :
    h.Lists scan q text ↔ h.intercepts q.owner q.attr = true ∧
      h.firstAssigned scan q.owner q.attr = some text := by
  unfold Lists intercepts
  rw [find?_constructorAttributes single]
  cases isPrivate q.attr <;> simp

def recovered? (h : Hook) (scan : ConstructorScan) (q : Lookup) : Option String :=
  if h.intercepts q.owner q.attr then h.firstAssigned scan q.owner q.attr else none

theorem recovered?_eq_some (single : ∀ source name, (scan source name).Single) {text : String} :
    h.recovered? scan q = some text ↔ h.Lists scan q text := by
  rw [lists_iff single, recovered?]
  cases h.intercepts q.owner q.attr <;> simp

theorem recovered?_eq_none (single : ∀ source name, (scan source name).Single) :
    h.recovered? scan q = none ↔ ∀ text, ¬ h.Lists scan q text := by
  rw [Option.eq_none_iff_forall_ne_some]
  exact forall_congr' fun text => not_congr (recovered?_eq_some single)

theorem resolve_defined (builtIn : h.chain = builtInChain) {value : DocValue}
    (found : h.registry.introspect q.owner q.attr = some value) : h.resolve scan q = value := by
  cases asked : h.intercepts q.owner q.attr <;>
    simp [resolve, asked, builtIn, builtInChain, Registry.resolveWith, Registry.plain, found]

theorem resolve_bare (builtIn : h.chain = builtInChain)
    (bare : h.registry.introspect q.owner q.attr = none) : h.resolve scan q =
      match h.recovered? scan q, q.default with
      | some text, _ => .placeholder text
      | none, some text => .default text
      | none, none => .missing := by
  cases asked : h.intercepts q.owner q.attr with
  | false =>
    cases given : q.default <;> simp [resolve, recovered?, Registry.plain, asked, bare, given]
  | true =>
    cases assigned : h.firstAssigned scan q.owner q.attr <;> cases given : q.default <;>
      simp [resolve, recovered?, Registry.resolveWith, Registry.plain, builtInChain, scanSources_eq,
        asked, builtIn, bare, assigned, given]

-- The forward walk of a lookup and the backward walk of the listing meet in one answer.
theorem resolve_eq_iff (builtIn : h.chain = builtInChain)
    (single : ∀ source name, (scan source name).Single) (value : DocValue) :
    h.resolve scan q = value ↔ h.Answers scan q value := by
  constructor
  · rintro rfl
    cases found : h.registry.introspect q.owner q.attr with
    | some value =>
      obtain ⟨m, first, rfl⟩ := Registry.introspect_eq_some.mp found
      rw [resolve_defined builtIn found]
      exact .member first
    | none =>
      have bare := Registry.introspect_eq_none.mp found
      rw [resolve_bare builtIn found]
      cases recovered : h.recovered? scan q with
      | some text => exact .placeholder bare ((recovered?_eq_some single).mp recovered)
      | none =>
        have unlisted := (recovered?_eq_none single).mp recovered
        cases given : q.default with
        | some text => exact .default bare unlisted given
        | none => exact .missing bare unlisted given
  · intro answers
    cases answers with
    | member first => exact resolve_defined builtIn (Registry.introspect_eq_some.mpr ⟨_, first, rfl⟩)
    | placeholder bare listed =>
      rw [resolve_bare builtIn (Registry.introspect_eq_none.mpr bare),
        (recovered?_eq_some single).mpr listed]
    | default bare unlisted given =>
      rw [resolve_bare builtIn (Registry.introspect_eq_none.mpr bare),
        (recovered?_eq_none single).mpr unlisted, given]
    | missing bare unlisted none =>
      rw [resolve_bare builtIn (Registry.introspect_eq_none.mpr bare),
        (recovered?_eq_none single).mpr unlisted, none]

-- An instrument whose constructor assigns what its base assigns too, and what its base defines.
def lockin : Hook where
  registry :=
    { classes :=
      [⟨"InstrumentBase", [], "class InstrumentBase: pass", [], ""⟩,
        ⟨"Visa", ["InstrumentBase"],
          "class Visa(InstrumentBase):\n  def __init__(self):\n    self.rate = 1",
          [("timeout", .value "5")], ""⟩,
        ⟨"Lockin", ["Visa"],
          "class Lockin(Visa):\n  def __init__(self):\n    self.rate = 2\n    self.timeout = 10",
          [], ""⟩] }

theorem resolve_eq_iff_lockin : lockin.chain = builtInChain ∧
    (∀ source name, (scanConstructor source name).Single) ∧
    lockin.resolve scanConstructor ⟨"Lockin", "rate", none⟩ = .placeholder "2" ∧
    lockin.Answers scanConstructor ⟨"Lockin", "timeout", none⟩ (.value "5") := by
  have bare : lockin.registry.Bare "Lockin" "rate" :=
    Registry.introspect_eq_none.mp (by decide +kernel)
  have listed : lockin.Lists scanConstructor ⟨"Lockin", "rate", none⟩ "2" :=
    ⟨by decide +kernel, by decide +kernel, by decide +kernel⟩
  refine ⟨rfl, scanConstructor_single, ?_, ?_⟩
  · exact (resolve_eq_iff rfl scanConstructor_single _).mpr (.placeholder bare listed)
  · exact (resolve_eq_iff rfl scanConstructor_single _).mp (by decide +kernel)

end Hook

end Labbook
