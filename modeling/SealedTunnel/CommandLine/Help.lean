namespace SealedTunnel.CommandLine

def helpLines : List String := [
  "sstunnel-connectivity - test DNS resolution through a Shadowsocks proxy",
  "",
  "USAGE:",
  "    sstunnel-connectivity [OPTIONS] -k <ACCESS_KEY>",
  "",
  "OPTIONS:",
  "    -k, --key <KEY>         Shadowsocks access key (ss://...)",
  "    -d, --domain <DOMAIN>   Domain to resolve in the test [default: example.com.]",
  "    -r, --resolver <LIST>   Comma-separated resolver addresses",
  "                            [default: 8.8.8.8,2001:4860:4860::8888]",
  "    -p, --proto <LIST>      Comma-separated protocols to test [default: tcp,udp]",
  "    -c, --config <FILE>     TOML configuration file; flags override it",
  "        --report-to <URL>   Upload sampled reports to a collector",
  "    -v                      Debug logging (or set RUST_LOG)",
  "    -h, --help              Print help information",
  "",
  "Prints one JSON report per test on stdout. Exits with status 1 if no",
  "test succeeded.",
  "",
  "EXAMPLES:",
  "    sstunnel-connectivity -k 'ss://Y2hhY2hhMjAtaWV0Zi1wb2x5MTMwNTpTRUNSRVQ@203.0.113.1:8388'",
  "    sstunnel-connectivity -c connectivity.toml -p udp",
  ""]

def helpText : String := String.join (helpLines.map (· ++ "\n"))

end SealedTunnel.CommandLine
