/-!
The texts that explain the command line: a short form that goes before errors, and what the help adds
to it.
-/
namespace FenceCheck.Cli.Help

def linesOf (lines : List String) : String :=
  String.join (lines.map (· ++ "\n"))

def programUsage : String := linesOf [
  "usage: snippetctl [-h] [--version] [--json] [--format \x7btext,json\x7d]",
  "                  [--run-id RUN_ID] [--config CONFIG] [--log-json]",
  "                  [--verbose | --quiet]",
  "                  \x7bscan,languages,validate-report,version\x7d ..."]

def programDetails : String := linesOf [
  "",
  "Check that fenced code samples in Markdown documents parse.",
  "",
  "positional arguments:",
  "  \x7bscan,languages,validate-report,version\x7d",
  "    scan                validate fenced code blocks and write the failure",
  "                        report",
  "    languages           list supported fence languages",
  "    validate-report     validate a report file against its JSON schema",
  "    version             print the tool version",
  "",
  "options:",
  "  -h, --help            show this help message and exit",
  "  --version             show program's version number and exit",
  "  --json                emit JSON output",
  "  --format \x7btext,json\x7d  output format",
  "  --run-id RUN_ID       run identifier used in log events",
  "  --config CONFIG       TOML config file (default: snippetctl.toml or",
  "                        pyproject.toml)",
  "  --log-json            emit log events as JSON lines",
  "  --verbose             enable verbose diagnostics",
  "  --quiet               only emit warnings and errors"]

def scanUsage : String := linesOf [
  "usage: snippetctl scan [-h] [--language LANGUAGE] [--out OUT] [--jobs JOBS]",
  "                       [--on-read-error \x7babort,skip\x7d] [--timeout TIMEOUT]",
  "                       [--exclude EXCLUDE] [--json]",
  "                       [paths ...]"]

def scanDetails : String := linesOf [
  "",
  "positional arguments:",
  "  paths                 Markdown files or directories (default from config)",
  "",
  "options:",
  "  -h, --help            show this help message and exit",
  "  --language LANGUAGE   fence language tag to validate (default: python)",
  "  --out OUT             report output path",
  "  --jobs JOBS           validate blocks on N worker threads",
  "  --on-read-error \x7babort,skip\x7d",
  "                        abort the run or skip unreadable documents",
  "  --timeout TIMEOUT     per-block timeout in seconds for external parsers",
  "  --exclude EXCLUDE     glob of documents to skip when walking directories",
  "  --json                emit JSON output"]

def languagesUsage : String := linesOf [
  "usage: snippetctl languages [-h] [--json]"]

def validateUsage : String := linesOf [
  "usage: snippetctl validate-report [-h] --file FILE [--json]"]

def validateDetails : String := linesOf [
  "",
  "options:",
  "  -h, --help   show this help message and exit",
  "  --file FILE",
  "  --json       emit JSON output"]

def versionUsage : String := linesOf [
  "usage: snippetctl version [-h] [--json]"]

def plainDetails : String := linesOf [
  "",
  "options:",
  "  -h, --help  show this help message and exit",
  "  --json      emit JSON output"]

end FenceCheck.Cli.Help
