import WireShapes.Model.Lowering

/-!
Models from documents.

* `parseDocument`: a document of a format version that is understood
* `mergeDocuments`: the definitions of several documents; one id has one definition
* `assemble`: the model of the definitions, with the prelude in front
-/

namespace WireShapes

open Source (RawModel RawShape)

/-- A document whose format version starts with one or two. -/
def parseDocument (source : SourceText) : Except ModelError RawModel :=
  match Source.decode Source.model source.text with
  | .error path => .error (.malformed source.origin path.text)
  | .ok doc =>
    match doc.version.toList with
    | '1' :: _ => .ok doc
    | '2' :: _ => .ok doc
    | _ => .error (.version source.origin doc.version)

/-- The definitions with one more; an id may come again only with an equal definition. -/
def mergeShape (merged : List (String × RawShape)) (e : String × RawShape) :
    Except ModelError (List (String × RawShape)) :=
  match Entries.get? e.1 merged with
  | some existing => if existing.same e.2 then .ok merged else .error (.conflictingShape ⟨e.1⟩)
  | none => .ok (merged ++ [e])

def mergeDocuments (docs : List RawModel) : Except ModelError (List (String × RawShape)) :=
  (docs.flatMap RawModel.shapes).foldlM mergeShape []

/-- The model of definitions on top of the prelude. -/
def lowerAll (raw : List (String × RawShape)) : Except ModelError Model :=
  raw.foldlM (fun model e => do
    match ← lowerShape e.1 e.2 with
    | some shape => .ok (model.insert shape)
    | none => .ok model) ⟨preludeShapes⟩

/-- The model of documents. -/
def assemble (docs : List RawModel) : Except ModelError Model := do
  let merged ← mergeDocuments docs
  let model ← lowerAll merged
  model.checkTargets
  .ok model

/-- The model of source texts, all of which are parsed before any is used. -/
def loadModel (sources : List SourceText) : Except ModelError Model := do
  let docs ← sources.mapM parseDocument
  assemble docs

end WireShapes
