import LineStore.Text.Bytes
/-!
# Completion scripts

Scripts that teach a shell the commands and flags of the program.
-/
namespace LineStore.Cli.Completion

private def ofLines (ls : List String) : Bytes := ls.flatMap fun l => utf8 l ++ [0x0a]

/-- The script for bash. -/
def bash : Bytes := ofLines
  [
    "# bash completion for linecache",
    "# Fallback if bash-completion is not installed",
    "if ! declare -F _get_comp_words_by_ref >/dev/null 2>&1; then",
    "  _get_comp_words_by_ref() \x7b",
    "    cur=$\x7bCOMP_WORDS[COMP_CWORD]\x7d",
    "    prev=$\x7bCOMP_WORDS[COMP_CWORD-1]\x7d",
    "  \x7d",
    "fi",
    "",
    "_linecache()",
    "\x7b",
    "    local cur prev cmd",
    "    COMPREPLY=()",
    "    _get_comp_words_by_ref -n : cur prev",
    "",
    "    if [[ $\x7bCOMP_CWORD\x7d -eq 1 ]]; then",
    "        COMPREPLY=( $(compgen -W \"show info watch completion --help --version\" -- \"$cur\") )",
    "        return 0",
    "    fi",
    "",
    "    cmd=$\x7bCOMP_WORDS[1]\x7d",
    "    local common=\"--attrs -a --color -c --filter -f --include -I --local --output -o --reload -r --sort -s --titles -t --tldr\"",
    "",
    "    case \"$cmd\" in",
    "        show)",
    "            local opts=\"$common --stdin\"",
    "            ;;",
    "        info)",
    "            local opts=\"$common --chop --human -H\"",
    "            ;;",
    "        watch)",
    "            local opts=\"$common --count --diff -d\"",
    "            ;;",
    "        completion)",
    "            COMPREPLY=( $(compgen -W \"bash zsh\" -- \"$cur\") )",
    "            return 0",
    "            ;;",
    "        *)",
    "            local opts=\"$common\"",
    "            ;;",
    "    esac",
    "",
    "    case \"$prev\" in",
    "        --output|-o)",
    "            COMPREPLY=( $(compgen -W \"text json raw yaml\" -- \"$cur\") )",
    "            return 0",
    "            ;;",
    "        --include|-I)",
    "            COMPREPLY=( $(compgen -o dirnames -- \"$cur\") )",
    "            return 0",
    "            ;;",
    "    esac",
    "",
    "    if [[ \"$cur\" == -* ]]; then",
    "        COMPREPLY=( $(compgen -W \"$opts\" -- \"$cur\") )",
    "        return 0",
    "    fi",
    "",
    "    COMPREPLY=( $(compgen -f -- \"$cur\") )",
    "    return 0",
    "\x7d",
    "",
    "complete -F _linecache linecache" ]

/-- The script for zsh. -/
def zsh : Bytes := ofLines
  [
    "#compdef linecache",
    "",
    "_linecache() \x7b",
    "  local -a cmds",
    "  cmds=(",
    "    'show:print lines of a file'",
    "    'info:describe cached files'",
    "    'watch:report changes to files as they happen'",
    "    'completion:generate shell completion script'",
    "  )",
    "",
    "  local -a common",
    "  common=(",
    "  '(-a --attrs)'\x7b-a,--attrs\x7d'[attributes to include]:attrs'",
    "  '(-c --color)'\x7b-c,--color\x7d'[enable colored text]'",
    "  '(-f --filter)'\x7b-f,--filter\x7d'[filters to apply]:filters'",
    "  '*'\x7b-I,--include\x7d'[search directory]:directory:_directories'",
    "  '--local[timestamps in TZ]'",
    "  '(-o --output)'\x7b-o,--output\x7d'[output format]:format:(text json raw yaml)'",
    "  '(-r --reload)'\x7b-r,--reload\x7d'[check for changes first]'",
    "  '(-s --sort)'\x7b-s,--sort\x7d'[sort attributes]:attrs'",
    "  '(-t --titles)'\x7b-t,--titles\x7d'[show titles]'",
    "  '--tldr[show tldr page]'",
    "  )",
    "",
    "  if (( CURRENT == 2 )); then",
    "    _describe -t commands 'linecache commands' cmds",
    "    return",
    "  fi",
    "",
    "  local curcontext=\"$curcontext\" state line",
    "  case $words[2] in",
    "    show)",
    "      _arguments -C \\",
    "        $common \\",
    "        '--stdin[read lines from standard input]' \\",
    "        '1:file:_files' \\",
    "        '2::line spec'",
    "      ;;",
    "    info)",
    "      _arguments -C \\",
    "        $common \\",
    "        '--chop[shorten paths]' \\",
    "        '(-H --human)'\x7b-H,--human\x7d'[human readable values]' \\",
    "        '*:file:_files'",
    "      ;;",
    "    watch)",
    "      _arguments -C \\",
    "        $common \\",
    "        '--count[stop after N changes]:count' \\",
    "        '(-d --diff)'\x7b-d,--diff\x7d'[diff modified files]' \\",
    "        '*:file:_files'",
    "      ;;",
    "    completion)",
    "      _arguments '1: :((bash zsh))'",
    "      ;;",
    "    *)",
    "      _arguments -C $common '*:file:_files'",
    "      ;;",
    "  esac",
    "\x7d",
    "",
    "# If this file is sourced directly (not autoloaded via fpath), ensure compsys is initialized and register the completion",
    "if ! typeset -f compdef >/dev/null 2>&1; then",
    "  autoload -Uz compinit && compinit -i",
    "fi",
    "compdef _linecache linecache" ]

/-- The script for a shell. -/
def script? (shell : Bytes) : Option Bytes :=
  if shell = utf8 "bash" then some bash
  else if shell = utf8 "zsh" then some zsh
  else none

/-- The shell to write for: the one named, else the one the path of the user's shell ends in. -/
def shellName (named path : Bytes) : Bytes :=
  if !named.isEmpty then named
  else if Bytes.endsWith (utf8 "zsh") path then utf8 "zsh"
  else if Bytes.endsWith (utf8 "bash") path then utf8 "bash"
  else []

end LineStore.Cli.Completion
