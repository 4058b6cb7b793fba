import Labbook.Text.Blank

namespace Labbook

namespace Csv

inductive Place where
  | recordStart
  | fieldStart
  | plain
  | inQuotes
  -- Behind a quote that ends the quoted text, unless another follows.
  | afterQuote
  deriving DecidableEq

def field (reversed : List Char) : String := String.ofList (trimBlanks reversed.reverse)

def isLineEnd (c : Char) : Bool := c = '\n' || c = '\r'

-- Reads on at a place, given the current field and the fields before it, both last first.
def recordsFrom (place : Place) (current : List Char) (fields : List String) :
    List Char → List (List String)
  | [] =>
    if place = .recordStart then [] else [(field current :: fields).reverse]
  | c :: rest =>
    match place with
    | .inQuotes =>
      if c = '"' then recordsFrom .afterQuote current fields rest
      else recordsFrom .inQuotes (c :: current) fields rest
    | _ =>
      if isLineEnd c then
        if place = .recordStart then recordsFrom .recordStart [] [] rest
        else (field current :: fields).reverse :: recordsFrom .recordStart [] [] rest
      else if c = ',' then recordsFrom .fieldStart [] (field current :: fields) rest
      else if c = '"' ∧ (place = .recordStart ∨ place = .fieldStart ∨ place = .afterQuote) then
        recordsFrom .inQuotes (if place = .afterQuote then c :: current else current) fields rest
      else recordsFrom .plain (c :: current) fields rest

-- The records of a text. A byte order mark in front is no part of it.
def records (text : String) : List (List String) :=
  let cs := match text.toList with
    | '\uFEFF' :: rest => rest
    | cs => cs
  recordsFrom .recordStart [] [] cs

end Csv

end Labbook
