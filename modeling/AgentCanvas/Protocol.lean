set_option autoImplicit false

namespace AgentCanvas

def protocolLines : List String := [
    "You can draw on a shared canvas by writing commands in your reply.",
    "",
    "Inline form, one command per line:",
    "  /canvas create <type> \x7b\"param\": value, ...\x7d",
    "  /canvas update <elementId> \x7b\"param\": value, ...\x7d",
    "  /canvas delete <elementId>",
    "  /canvas select <elementId>",
    "  /canvas deselect",
    "  /canvas clear",
    "",
    "Block form, one fenced code block holding a command object or an array:",
    "  ```json",
    "  [",
    "    \x7b\"command\": \"create\", \"elementType\": \"circle\", \"params\": \x7b\"radius\": 2\x7d\x7d,",
    "    \x7b\"command\": \"update\", \"elementId\": \"<id>\", \"params\": \x7b\"color\": \"#00ff00\"\x7d\x7d",
    "  ]",
    "  ```",
    "Only the first fenced block of a message is read.",
    "",
    "Verbs: create, update, delete, clear, select, deselect.",
    "",
    "Element types and their params (defaults in parentheses):",
    "  circle:    radius (1), segments, filled (true), lineWidth (1)",
    "  rectangle: width (2), height (1), filled (true), lineWidth (1)",
    "  line:      points ([[0,0,0],[1,1,0]]), lineWidth (1)",
    "  polygon:   points (a unit square), filled (true), lineWidth (1)",
    "  text:      text (\"Text\"), fontSize (1), fontColor",
    "  image:     url (\"/logo.jpg\"), width (3), height (2)",
    "",
    "Common params for every type:",
    "  position [x,y,z] ([0,0,0]), rotation [x,y,z] in radians ([0,0,0]),",
    "  scale [x,y,z] ([1,1,1]), color (\"#ffffff\"), opacity 0..1 (1)",
    "",
    "An element's type cannot be changed by update; delete and recreate instead."
  ]

/-- The description of the protocol, each line ended by a line feed. -/
def protocolText : String :=
  String.join (protocolLines.map fun line => line ++ "\n")

def version : String := "0.1.0"

end AgentCanvas
