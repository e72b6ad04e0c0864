import KeySequenced.Catalog.Basic
import KeySequenced.Dataset.Operation

/-!
# Operations on a catalog

The requests that a catalog takes, among them those to the datasets behind its
handles, as values.
-/

set_option autoImplicit false

namespace KeySequenced

/-- A request to a catalog or to a dataset behind a handle. -/
inductive CatalogOperation where
  | define (definition : Definition)
  | lookup (name : String)
  | delete (name : String)
  /-- The program starts anew beside the same volume. -/
  | restart
  | use (handle : Handle) (operation : Operation)
  deriving DecidableEq, Repr

inductive CatalogAnswer where
  | handle (result : Except CatalogFault Handle)
  | deleted (result : Except CatalogFault Unit)
  | restarted
  /-- The answer of the dataset, or none if the handle is not in use. -/
  | used (result : Option (Except Fault Answer))

namespace Catalog

def perform (operation : CatalogOperation) (catalog : Catalog) (volume : Volume) :
    CatalogAnswer × Catalog × Volume :=
  match operation with
  | .define definition =>
    let (result, after) := catalog.define definition volume
    (.handle result, after, volume)
  | .lookup name => (.handle (catalog.lookup name), catalog, volume)
  | .delete name =>
    let (result, after) := catalog.delete name volume
    (.deleted result, after)
  | .restart => (.restarted, catalog.restart, volume)
  | .use handle request =>
    match catalog.dataset? handle with
    | none => (.used none, catalog, volume)
    | some dataset =>
      let (answer, after, volume) := dataset.perform request volume
      (.used (some answer), catalog.setDataset handle after, volume)

def run : List CatalogOperation → Catalog → Volume → List CatalogAnswer × Catalog × Volume
  | [], catalog, volume => ([], catalog, volume)
  | operation :: rest, catalog, volume =>
    let (answer, catalog, volume) := catalog.perform operation volume
    let (answers, catalog, volume) := run rest catalog volume
    (answer :: answers, catalog, volume)

end Catalog

end KeySequenced
