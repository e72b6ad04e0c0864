import KeySequenced.Dataset.Basic
import KeySequenced.Text.Quoted
import KeySequenced.Text.Summary

/-!
# Summaries of datasets
-/

set_option autoImplicit false

namespace KeySequenced.Dataset

def summaryFields (dataset : Dataset) : List Text.Field :=
  [⟨"cluster", Text.quote dataset.clusterName⟩,
    ⟨"open", Text.ofBool dataset.isOpen⟩,
    ⟨"records", toString dataset.size⟩,
    ⟨"browses", toString dataset.activeBrowses⟩]

def summary (dataset : Dataset) : String := Text.summary "KsdsEngine" dataset.summaryFields

def summaryLines (dataset : Dataset) : String :=
  Text.summaryLines "KsdsEngine" dataset.summaryFields

end KeySequenced.Dataset
