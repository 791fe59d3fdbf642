import SourceAudit.Rule.Basic

/-! Templates that do not escape what they show. -/

namespace SourceAudit

def Node.height (n : Node) : Nat := n.children.attach.foldl (fun h ⟨(c, _), _⟩ => max h (c.height + 1)) 1
termination_by sizeOf n
decreasing_by rename_i present; exact Node.sizeOf_lt_of_mem_children present

/-- The nodes of a level of a tree and of all levels below, nearest first; the fuel bounds the levels. -/
def Node.levels : Nat → List Node → List Node
  | 0, _ => []
  | fuel + 1, level =>
    if level.isEmpty then [] else level ++ levels fuel (level.flatMap fun n => n.children.map Prod.fst)

namespace Rule

/-- How a keyword answers the question whether what a template shows is escaped. -/
inductive Escaping where
  | off
  | on
  | unclear

def escaping : Node → Escaping
  | .constant _ (.bool false) => .off
  | .constant _ (.bool true) => .on
  | .call _ (.attr _ _ "select_autoescape" _) _ _ => .on
  | .call _ (.name _ "select_autoescape" _) _ _ => .on
  | _ => .unclear

/-- The first keyword named `autoescape` in the call or anywhere in its arguments, nearest first. -/
def autoescape? (call : Node) : Option Escaping :=
  (Node.levels call.height [call]).findSome? fun
    | .keyword _ arg value => if arg == some "autoescape" then some (escaping value) else none
    | _ => none

def jinjaAutoescape : Rule :=
  plain "B701" "jinja2_autoescape_false" "Call" fun c => do
    let parts := (c.qualname.map (splitString '.')).getD []
    if parts.contains "jinja2" && parts.getLast? == some "Environment" then
      match autoescape? (← c.theNode) with
      | some .off =>
        return some (finding .high .high 94
          ("Using jinja2 templates with autoescape=False is dangerous and can lead to XSS. Use " ++
            "autoescape=True or use the select_autoescape function to mitigate XSS vulnerabilities."))
      | some .on => return none
      | some .unclear =>
        return some (finding .high .medium 94
          ("Using jinja2 templates with autoescape=False is dangerous and can lead to XSS. Ensure " ++
            "autoescape=True or use the select_autoescape function to mitigate XSS vulnerabilities."))
      | none =>
        return some (finding .high .high 94
          ("By default, jinja2 sets autoescape to False. Consider using autoescape=True or use the " ++
            "select_autoescape function to mitigate XSS vulnerabilities."))
    else return none

def makoTemplates : Rule :=
  plain "B702" "use_of_mako_templates" "Call" fun c => do
    let parts := (c.qualname.map (splitString '.')).getD []
    return reportIf (parts.contains "mako" && parts.getLast? == some "Template")
      (finding .medium .high 80
        ("Mako templates allow HTML/JS rendering by default and are inherently open to XSS attacks. " ++
          "Ensure variables in all templates are properly sanitized via the 'n', 'h' or 'x' flags " ++
          "(depending on context). For example, to HTML escape the variable 'data' do " ++
          "$\x7b data |h \x7d."))

end Rule

end SourceAudit
