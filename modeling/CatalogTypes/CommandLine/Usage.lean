import CatalogTypes.CommandLine.Arguments

/-! # Usage

The texts that explain the command line, laid out for eighty columns.
-/
namespace CatalogTypes.CommandLine

def usage : Text := Text.lines [
  "usage: cms-types [-h] [--all] [--content-types] [--sections]",
  "                 [--source-dir SOURCE_DIR] [--output-dir OUTPUT_DIR] [--list]",
  "                 [--status]",
  ""]

def help : Text := usage ++ Text.lines [
  "",
  "Generate TypeBox types from content-types.json and sections.json",
  "",
  "options:",
  "  -h, --help            show this help message and exit",
  "  --all, -a             Generate all types (content-types + sections)",
  "  --content-types       Generate content-types only",
  "  --sections            Generate sections only",
  "  --source-dir SOURCE_DIR",
  "                        Directory containing the catalog files (default:",
  "                        current directory)",
  "  --output-dir OUTPUT_DIR",
  "                        node_modules directory to write @cms-types into",
  "  --list                List generated types and exit",
  "  --status              Check whether the types have been generated and exit",
  ""]

def complaint (e : UsageError) : Text := usage ++ "cms-types: error: " ++ e.message ++ "\n"

end CatalogTypes.CommandLine
