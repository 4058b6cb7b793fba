import Labbook.Attribute.Hierarchy

namespace Labbook

inductive DocValue where
  | value (text : String)
  | method (name : String)
  | placeholder (text : String)
  | default (text : String)
  | missing
  deriving DecidableEq

namespace DocValue

def kind : DocValue → String
  | value _ => "value"
  | method _ => "method"
  | placeholder _ => "placeholder"
  | default _ => "default"
  | missing => "missing"

def text : DocValue → String
  | value t | placeholder t | default t => t
  | method name => "<method " ++ name ++ ">"
  | missing => "<missing>"

end DocValue

-- Reads the constructor assignments of a class from its text and name.
abbrev ConstructorScan := String → String → Table String

structure Lookup where
  owner : String
  attr : String
  default : Option String := none

inductive Resolver where
  | introspection
  | sourceScan
  | default
  deriving DecidableEq

namespace Resolver

def name : Resolver → String
  | introspection => "introspection"
  | sourceScan => "source scan"
  | default => "default"

def ofName? (text : String) : Option Resolver :=
  [introspection, sourceScan, default].find? (·.name == text)

end Resolver

namespace Registry

def ownMember (r : Registry) (attr name : String) : Option DocValue := do
  let c ← r.get? name
  match ← c.members.find? attr with
  | .value text => some (.value text)
  | .method => some (.method attr)

def introspect (r : Registry) (owner attr : String) : Option DocValue :=
  (r.mro owner).findSome? (r.ownMember attr)

def ownAssignment (r : Registry) (scan : ConstructorScan) (attr name : String) : Option DocValue := do
  let c ← r.get? name
  return .placeholder (← (scan c.source c.name).find? attr)

def scanSources (r : Registry) (scan : ConstructorScan) (owner attr : String) : Option DocValue :=
  (r.mro owner).findSome? (r.ownAssignment scan attr)

def plain (r : Registry) (q : Lookup) : DocValue :=
  match r.introspect q.owner q.attr, q.default with
  | some value, _ => value
  | none, some text => .default text
  | none, none => .missing

def resolveWith (r : Registry) (scan : ConstructorScan) (q : Lookup) : Resolver → Option DocValue
  | .introspection => r.introspect q.owner q.attr
  | .sourceScan => r.scanSources scan q.owner q.attr
  | .default => some (r.plain q)

end Registry

def instrumentBase : String := "InstrumentBase"

def builtInChain : List Resolver := [.introspection, .sourceScan, .default]

structure Hook where
  registry : Registry
  base : String := instrumentBase
  chain : List Resolver := builtInChain

namespace Hook

def isPrivate (name : String) : Bool := name.startsWith "_"

def intercepts (h : Hook) (owner attr : String) : Bool :=
  !isPrivate attr && h.registry.isSubclass owner h.base

-- The first answer of the chain, and the plain one when the chain is not asked or has none.
def resolve (h : Hook) (scan : ConstructorScan) (q : Lookup) : DocValue :=
  let answer :=
    if h.intercepts q.owner q.attr then h.chain.findSome? (h.registry.resolveWith scan q) else none
  answer.getD (h.registry.plain q)

def assignmentsOf (h : Hook) (scan : ConstructorScan) (name : String) : Table String :=
  match h.registry.get? name with
  | some c => scan c.source c.name
  | none => []

-- All public attributes that constructors assign on a class, derived classes going before their bases.
def constructorAttributes (h : Hook) (scan : ConstructorScan) (owner : String) : Table String :=
  let merged := (h.registry.mro owner).reverse.foldl
    (fun found name => Table.insertAll found (h.assignmentsOf scan name)) ([] : Table String)
  merged.filter fun (name, _) => !isPrivate name

end Hook

structure ExtensionInfo where
  version : String
  readSafe : Bool
  writeSafe : Bool

structure GetterTable where
  extensions : List String := []
  getters : List (String × Hook) := []

namespace GetterTable

def setupExtension (t : GetterTable) (name : String) : GetterTable :=
  if t.extensions.contains name then t else { t with extensions := t.extensions ++ [name] }

def setup (t : GetterTable) (h : Hook) : GetterTable × ExtensionInfo :=
  let t := t.setupExtension "autodoc"
  ({ t with getters := t.getters ++ [("object", h)] }, ⟨"0.1", true, true⟩)

def get (t : GetterTable) (scan : ConstructorScan) (q : Lookup) : DocValue :=
  match t.getters.getLast?, q.default with
  | some (_, h), _ => h.resolve scan q
  | none, some text => .default text
  | none, none => .missing

end GetterTable

end Labbook
