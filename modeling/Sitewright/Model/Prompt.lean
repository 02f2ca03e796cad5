import Sitewright.Asset.Inventory

namespace Sitewright.Prompt

/-- How the model is to use its tools. -/
def rules : String :=
  "You are a web compiler. Translate a plain-English description into a sequence of tool " ++
    "calls that builds a website.\n" ++
    "Rules:\n" ++
    "- Return tool calls only, with valid JSON arguments. No commentary.\n" ++
    "- Use set_layout() for the shared wrapper (document start, metadata, title, opening body; " ++
    "closing body and document end).\n" ++
    "- Use create_page() for BODY-only content. The user writes in plain English; you generate " ++
    "the HTML.\n" ++
    "- Use add_dynamic_content() to mark placeholders like \x7b\x7bCURRENT_TIME\x7d\x7d.\n" ++
    "- Use add_asset() to insert images from the local assets/ directory; prefer exact " ++
    "filenames from the inventory below."

def assetList (inventory : Inventory) : String :=
  if inventory.files.isEmpty then "No assets found."
  else
    "Available assets (relative to /assets):\n" ++
      String.intercalate "\n" (inventory.files.map ("- " ++ ·))

/-- What the model can refer to. -/
def environment (inventory : Inventory) : String :=
  "Environment:\n" ++
    "- Static files are served from /assets (mapped to the local ./assets directory).\n" ++
    assetList inventory

def system (inventory : Inventory) : String := rules ++ "\n\n" ++ environment inventory

end Sitewright.Prompt
