import Std.Data.TreeMap
import ConceptSpace.Document.Basic
import ConceptSpace.Fault
import ConceptSpace.Text.Quoted

/-! Handlers: capabilities that are called by key. Keys are unique, and they are listed in order. -/
namespace ConceptSpace

structure Handler where
  key : String
  answer : Document → Except Fault Document

structure HandlerRegistry where
  handlers : Std.TreeMap String Handler

namespace HandlerRegistry

def empty : HandlerRegistry := ⟨∅⟩

def insert (r : HandlerRegistry) (h : Handler) : Except Fault HandlerRegistry :=
  if r.handlers.contains h.key then .error (.duplicateHandler h.key)
  else .ok ⟨r.handlers.insert h.key h⟩

def ofHandlers (handlers : List Handler) : Except Fault HandlerRegistry := handlers.foldlM insert empty

def get? (r : HandlerRegistry) (key : String) : Option Handler := r.handlers[key]?

def keys (r : HandlerRegistry) : List String := r.handlers.keys

def size (r : HandlerRegistry) : Nat := r.handlers.size

def call (r : HandlerRegistry) (key : String) (input : Document) : Except Fault Document :=
  match r.get? key with
  | some h => h.answer input
  | none => .error (.handler ("no handler registered for '" ++ key ++ "'"))

def describe (r : HandlerRegistry) : String :=
  "HandlerRegistry \x7b keys: " ++ Text.quotedList r.keys ++ " \x7d"

end HandlerRegistry

end ConceptSpace
