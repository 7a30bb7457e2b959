/-!
# Ordered sets of texts

A set of texts is written as a list in ascending order, by code point, with no text twice.
-/

namespace MutationTesting.Text

/-- The texts of a list in ascending order, each once. -/
def sortedSet (texts : List String) : List String :=
  texts.eraseDups.mergeSort fun a b => decide (a ≤ b)

def startsWith (start text : String) : Bool := start.toList.isPrefixOf text.toList

def endsWith (ending text : String) : Bool := ending.toList.isSuffixOf text.toList

end MutationTesting.Text
